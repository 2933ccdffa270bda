import TokenGrammar.Regex.Program

/-!
# Running programs

A program goes through a text along one thread. Where it has a choice it keeps the other way as a
branch; when it fails it comes back to the branch that was kept last. How many branches it keeps and
how often it comes back are limited.

* `Program.search?`: runs a program on a text.
-/

namespace TokenGrammar.Program

/-- One way through a program and a text. -/
structure Thread where
  /-- The next instruction. -/
  next : Nat
  place : Nat
  registers : Array (Option Nat)
  /-- How many branches there were where the atomic parts began that have not ended, the innermost
  first. -/
  atomics : List Nat := []

namespace Thread

/-- Goes on with an instruction. -/
def goTo (t : Thread) (next : Nat) : Thread := { t with next }

/-- Goes on with the next instruction. -/
def onward (t : Thread) : Thread := t.goTo (t.next + 1)

/-- Goes to another place in the text. -/
def move (t : Thread) (place : Nat) : Thread := { t with place }

/-- What a register holds. -/
def read (t : Thread) (register : Nat) : Option Nat := (t.registers[register]?).join

/-- Puts a value into a register. -/
def write (t : Thread) (register : Nat) (value : Option Nat) : Thread :=
  { t with registers := t.registers.setIfInBounds register value }

/-- Takes a text that stands at the place. -/
def take? (t : Thread) (text taken : Array Char) : Option Thread :=
  let last := t.place + taken.size
  if text.extract t.place last = taken then some (t.onward.move last) else none

/-- The text that a group has matched. -/
def matched? (t : Thread) (text : Array Char) (index : Nat) : Option (Array Char) := do
  let first ← t.read (2 * index)
  let last ← t.read (2 * index + 1)
  if first ≤ last then return text.extract first last else none

/-- Records where the groups of a plain part have matched. -/
def writeGroups (t : Thread) (marks : Automaton.Marks) (firstGroup groups : Nat) : Thread :=
  (List.range (2 * groups)).foldl
    (fun t k => t.write (2 * firstGroup + k) (marks[k + 2]?).join) t

end Thread

/-- What an instruction makes of a thread. -/
inductive Move where
  | fail
  /-- Fails, and gives up the branches down to the one that goes on with an instruction. -/
  | failTo (next : Nat)
  | go (t : Thread)
  /-- Goes on with the first thread and keeps the second one as a branch. -/
  | fork (t branch : Thread)
  /-- Goes on with a thread and keeps some branches only, the oldest ones. -/
  | keep (branches : Nat) (t : Thread)

namespace Move

/-- Goes on with a thread if there is one. -/
def ofOption : Option Thread → Move
  | some t => .go t
  | none => .fail

/-- Goes on with one of two instructions, as greed prefers, and keeps the other one. -/
def prefer (greedy : Bool) (t : Thread) (more done : Nat) : Move :=
  if greedy then .fork (t.goTo more) (t.goTo done) else .fork (t.goTo done) (t.goTo more)

end Move

/-- One instruction; `branches` is the number of branches that are kept. -/
def step (text : Array Char) (branches : Nat) (t : Thread) : Instruction → Move
  | .literal cs => .ofOption (t.take? text cs.toArray)
  | .any newline =>
    .ofOption (text[t.place]?.bind fun c =>
      if newline || c ≠ '\n' then some (t.onward.move (t.place + 1)) else none)
  | .assertion a => if a.holds text t.place then .go t.onward else .fail
  | .split first second => .fork (t.goTo first) (t.goTo second)
  | .jump target => .go (t.goTo target)
  | .save register => .go (t.onward.write register (some t.place))
  | .restore register => .ofOption ((t.read register).map t.onward.move)
  | .clearCount register => .go (t.onward.write register (some 0))
  | .count lo hi greedy next counter =>
    let n := (t.read counter).getD 0
    if hi = some n then .go (t.goTo next)
    else
      let t := t.write counter (some (n + 1))
      if lo ≤ n then .prefer greedy t (t.next + 1) next else .go t.onward
  | .countMoving lo greedy next counter last =>
    let n := (t.read counter).getD 0
    if 0 < n ∧ t.read last = some t.place then .fail
    else
      let t := t.write counter (some (n + 1))
      if lo ≤ n then .prefer greedy (t.write last (some t.place)) (t.next + 1) next
      else .go t.onward
  | .back count => if count ≤ t.place then .go (t.onward.move (t.place - count)) else .fail
  | .failLook => .failTo (t.next + 1)
  | .beginAtomic => .go { t.onward with atomics := branches :: t.atomics }
  | .endAtomic =>
    match t.atomics with
    | [] => .fail
    | size :: atomics => .keep size { t.onward with atomics }
  | .reference index =>
    .ofOption ((t.matched? text index).bind fun matched => t.take? text matched)
  | .entered index => if (t.read (2 * index)).isSome then .go t.onward else .fail
  | .searchStart => if t.place = 0 then .go t.onward else .fail
  | .plain a firstGroup groups =>
    .ofOption ((a.search? text t.place).map fun (last, marks) =>
      (t.onward.move last).writeGroups marks firstGroup groups)
  | .accept => .go t

/-- Threads that have not been gone on with, the one that was kept last at the end. -/
abbrev Branches := Array Thread

/-- Gives up branches, at most `n`, down to the one that goes on with an instruction. -/
def dropTo (next : Nat) : (n : Nat) → Branches → Branches
  | 0, branches => branches
  | n + 1, branches =>
    if branches.back?.any (·.next = next) then branches.pop else dropTo next n branches.pop

/-- How many branches may be kept. -/
def maxBranches : Nat := 1000000

/-- How often a search may come back. -/
def maxComebacks : Nat := 1000000

/-- How many instructions a search may take. -/
def maxSteps : Nat := 0x100000000000

/-- Runs a thread up to where the program accepts; where it fails the last branch takes over.
Nothing is found if there is none, or if one of the limits is reached. -/
def run (p : Program) (text : Array Char) : (steps comebacks : Nat) → Option Thread → Branches →
    Option Thread
  | 0, _, _, _ => none
  | steps + 1, comebacks + 1, none, branches =>
    match branches.back? with
    | some t => run p text steps comebacks (some t) branches.pop
    | none => none
  | _, 0, none, _ => none
  | steps + 1, comebacks, some t, branches =>
    match p.code[t.next]? with
    | none => none
    | some .accept => some t
    | some i =>
      match step text branches.size t i with
      | .fail => run p text steps comebacks none branches
      | .failTo next => run p text steps comebacks none (dropTo next branches.size branches)
      | .go t => run p text steps comebacks (some t) branches
      | .fork t branch =>
        if branches.size < maxBranches then
          run p text steps comebacks (some t) (branches.push branch)
        else none
      | .keep n t => run p text steps comebacks (some t) (branches.shrink n)

/-- Runs a program on a text: where the first match begins. A pattern may let its match begin behind
its end; then it begins at its end. -/
def search? (p : Program) (text : Array Char) : Option Nat := do
  let t ←
    run p text maxSteps maxComebacks (some ⟨0, 0, .replicate p.registers none, []⟩) #[]
  return min (← t.read 0) (← t.read 1)

end TokenGrammar.Program
