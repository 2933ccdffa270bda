import TokenGrammar.Regex.Pattern
import TokenGrammar.Regex.Plain.Automaton
import TokenGrammar.Regex.Plain.Reader
import TokenGrammar.Regex.Plain.Size

/-!
# Programs

A pattern that is not plain is searched step by step, by the instructions of a program. Its plain
parts are handed on to automata, which match in one way only, the preferred one; how much of the
pattern is handed on therefore decides what can be come back to.

* `Plain.compile?`: the automaton of a plain text;
* `Program.compile?`: the program of a pattern.
-/

namespace TokenGrammar

/-- The automaton of the text of a plain pattern, if it is small enough. -/
def Plain.compile? (text : List Char) : Option Automaton := do
  let p ← Plain.read? text
  if p.isSmall then return p.automaton else none

/-- An instruction; places are instructions to go on with. Registers hold places in the text and
numbers of repetitions. -/
inductive Instruction where
  | literal (cs : List Char)
  | any (newline : Bool)
  | assertion (a : Assertion)
  /-- Goes on with `first`, and comes back to `second`. -/
  | split (first second : Nat)
  | jump (target : Nat)
  /-- Records the place in the text. -/
  | save (register : Nat)
  /-- Goes to the place that is recorded. -/
  | restore (register : Nat)
  | clearCount (register : Nat)
  /-- Counts a repetition of what follows; goes on with `next` when there are enough. -/
  | count (lo : Nat) (hi : Option Nat) (greedy : Bool) (next counter : Nat)
  /-- Counts a repetition of what may take no characters; the last place is recorded, because
  nothing is repeated at one place. -/
  | countMoving (lo : Nat) (greedy : Bool) (next counter last : Nat)
  /-- Goes some characters back. -/
  | back (count : Nat)
  /-- The look-around that the last split has begun must not match. -/
  | failLook
  | beginAtomic
  /-- Gives up what could be come back to since the atomic part began. -/
  | endAtomic
  | reference (index : Nat)
  | entered (index : Nat)
  | searchStart
  /-- A plain part; its groups are numbered from `firstGroup` on. -/
  | plain (a : Automaton) (firstGroup groups : Nat)
  | accept
deriving Inhabited

/-- Instructions with the number of registers that they need. -/
structure Program where
  code : Array Instruction
  registers : Nat

namespace Program

/-! ## Assembling -/

/-- What adds instructions, unless a part of the pattern is refused. -/
abbrev Assembler := StateT Program Option

/-- Adds an instruction. -/
def emit (i : Instruction) : Assembler Unit :=
  modify fun p => { p with code := p.code.push i }

/-- The index of the next instruction. -/
def here : Assembler Nat := return (← get).code.size

/-- Puts an instruction in the place of one that has been added. -/
def patch (target : Nat) (i : Instruction) : Assembler Unit :=
  modify fun p => { p with code := p.code.setIfInBounds target i }

/-- A register that is not used yet. -/
def newRegister : Assembler Nat := do
  let p ← get
  set { p with registers := p.registers + 1 }
  return p.registers

/-- A choice between what follows and what stands behind the instructions of `body`. -/
def choice (greedy : Bool) (body : Assembler Unit) : Assembler Unit := do
  let start ← here
  emit (.split 0 0)
  body
  let next ← here
  patch start (if greedy then .split (start + 1) next else .split next (start + 1))

/-- Plain patterns one after the other. -/
def plain (ps : List Pattern) : Assembler Unit := do
  match ps with
  | [] => return
  | ps =>
    match Pattern.literals? ps with
    | some text => emit (.literal text)
    | none =>
      let automaton ← Plain.compile? (ps.flatMap (·.write .alternatives))
      let groups := Pattern.groupsOf ps
      emit (.plain automaton (groups.headD 0) groups.length)

/-- Repeats `body`, the instructions of a pattern that is repeated. -/
def repetition (lo : Nat) (hi : Option Nat) (greedy mayBeEmpty : Bool) (body : Assembler Unit) :
    Assembler Unit := do
  if hi.isNone && mayBeEmpty then
    let counter ← newRegister
    let last ← newRegister
    emit (.clearCount counter)
    let start ← here
    emit (.countMoving lo greedy 0 counter last)
    body
    emit (.jump start)
    patch start (.countMoving lo greedy (← here) counter last)
  else if lo = 0 && hi.isNone then
    let start ← here
    choice greedy do
      body
      emit (.jump start)
  else if lo = 1 && hi.isNone then
    let start ← here
    body
    let next := (← here) + 1
    emit (if greedy then .split start next else .split next start)
  else
    let counter ← newRegister
    emit (.clearCount counter)
    let start ← here
    emit (.count lo hi greedy 0 counter)
    body
    emit (.jump start)
    patch start (.count lo hi greedy (← here) counter)

/-- Looks around by the instructions of `body`; looking behind goes back first, which needs a fixed
width. -/
def look (behind negated : Bool) (t : Pattern.Traits) (body : Assembler Unit) :
    Assembler Unit := do
  let inner : Assembler Unit := do
    if behind then
      if t.isFixed then emit (.back t.minWidth) else failure
    body
  if negated then
    choice true do
      inner
      emit .failLook
  else
    let place ← newRegister
    emit (.save place)
    inner
    emit (.restore place)

/-- How many patterns in front are plain and of a fixed width. -/
def prefixLength (ps : List Pattern) : Nat := (ps.takeWhile (·.isFixedPlain)).length

/-- How many of the patterns at the end are plain and, if `hard`, of a fixed width. -/
def suffixLength (hard : Bool) (ps : List Pattern) : Nat :=
  (ps.reverse.takeWhile fun p => if hard then p.isFixedPlain else p.isPlain).length

mutual

/-- The instructions of a pattern. Where the pattern is not `hard` and what follows it cannot come
back into it, it is handed on as a whole if it is plain. -/
def assemble (hard : Bool) (p : Pattern) : Assembler Unit := do
  if !hard && p.isPlain then plain [p]
  else
    match p with
    | .empty => return
    | .char _ true | .plain .. => plain [p]
    | .char c false => emit (.literal [c])
    | .any newline => emit (.any newline)
    | .assertion a => emit (.assertion a)
    | .seq ps =>
      let front := prefixLength ps
      let back := suffixLength hard (ps.drop front)
      plain (ps.take front)
      assembleMiddle front (ps.length - front - back) ps
      plain (ps.drop (ps.length - back))
    | .alt ps => assembleAlternatives hard ps
    | .group index p => do
      emit (.save (2 * index))
      assemble hard p
      emit (.save (2 * index + 1))
    | .repeated 0 (some 1) greedy p => choice greedy (assemble hard p)
    | .repeated lo hi greedy p =>
      let t := p.traits
      repetition lo hi greedy (t.minWidth = 0) (assemble (hard || t.isHard) p)
    | .look true negated (.alt ps) =>
      let t := Pattern.altTraits ps
      if t.isFixed then look true negated t (assemble false (.alt ps))
      else if negated then assembleBehindNone ps
      else assembleBehindAny ps
    | .look behind negated p => look behind negated p.traits (assemble false p)
    | .atomic p =>
      emit .beginAtomic
      assemble false p
      emit .endAtomic
    | .reference index => emit (.reference index)
    | .entered index => emit (.entered index)
    | .conditional test yes no =>
      emit .beginAtomic
      let split ← here
      emit (.split 0 0)
      assemble hard test
      emit .endAtomic
      assemble hard yes
      let jump ← here
      emit (.jump 0)
      patch split (.split (split + 1) (jump + 1))
      assemble hard no
      patch jump (.jump (← here))
    | .keepOut => emit (.save 0)
    | .searchStart => emit .searchStart

/-- The instructions of some patterns of a sequence, without `skipped` ones in front and with as
many as `count` then. -/
def assembleMiddle (skipped count : Nat) : List Pattern → Assembler Unit
  | [] => return
  | p :: ps =>
    match skipped, count with
    | skipped + 1, count => assembleMiddle skipped count ps
    | 0, count + 1 => do
      assemble true p
      assembleMiddle 0 count ps
    | 0, 0 => return

/-- The instructions of alternatives in order of preference. -/
def assembleAlternatives (hard : Bool) : List Pattern → Assembler Unit
  | [] => return
  | [p] => assemble hard p
  | p :: ps => do
    let split ← here
    emit (.split 0 0)
    assemble hard p
    let jump ← here
    emit (.jump 0)
    patch split (.split (split + 1) (jump + 1))
    assembleAlternatives hard ps
    patch jump (.jump (← here))

/-- Looks behind for one of some alternatives. -/
def assembleBehindAny : List Pattern → Assembler Unit
  | [] => return
  | [p] => look true false p.traits (assemble false p)
  | p :: ps => do
    let split ← here
    emit (.split 0 0)
    look true false p.traits (assemble false p)
    let jump ← here
    emit (.jump 0)
    patch split (.split (split + 1) (jump + 1))
    assembleBehindAny ps
    patch jump (.jump (← here))

/-- Looks behind for none of some alternatives. -/
def assembleBehindNone : List Pattern → Assembler Unit
  | [] => return
  | p :: ps => do
    look true true p.traits (assemble false p)
    assembleBehindNone ps

end

/-- The program of a pattern with some groups: at each place of the text in turn it tries to match
the pattern. -/
def compile? (p : Pattern) (groups : Nat) : Option Program := do
  let all : Assembler Unit := do
    repetition 0 none false false (emit (.any true))
    assemble true (.group 0 p)
    emit .accept
  let (_, program) ← all.run ⟨#[], 2 * groups + 2⟩
  return program

end Program

end TokenGrammar
