import TokenGrammar.Regex.Plain.Tree

/-!
# Automata

The automaton of a plain pattern has a node for every step of a match. A choice between two nodes
prefers the first one, so the matches of a pattern have an order; the first of them is what a
search finds (`Automaton.search?`). All ways through the automaton are followed side by side, one
character at a time, the preferred ones first.
-/

namespace TokenGrammar

open Text (CharSet)

/-- A node of an automaton, with the nodes that follow it. -/
inductive Node where
  /-- Takes one character of a set. -/
  | chars (s : CharSet) (next : Nat)
  | assertion (a : Assertion) (next : Nat)
  /-- Records the place under a number. -/
  | mark (slot next : Nat)
  /-- The first node is preferred. -/
  | choice (first second : Nat)
  | accept
deriving Inhabited

/-- An automaton: its nodes, the one to begin with and how many places it records. -/
structure Automaton where
  nodes : Array Node
  start : Nat
  slots : Nat

namespace Automaton

/-! ## Building -/

/-- What adds nodes to those that are there. -/
abbrev Builder := StateM (Array Node)

/-- Adds a node and gives its index. -/
def add (n : Node) : Builder Nat := fun nodes => (nodes.size, nodes.push n)

/-- Puts another node in the place of one. -/
def put (i : Nat) (n : Node) : Builder Unit := fun nodes => ((), nodes.setIfInBounds i n)

/-- A choice between going on with `more` and with `done`. -/
def choose (greedy : Bool) (more done : Nat) : Node :=
  if greedy then .choice more done else .choice done more

/-- `n` copies in front of `next`. -/
def copies (build : Nat → Builder Nat) : Nat → (next : Nat) → Builder Nat
  | 0, next => return next
  | n + 1, next => do copies build n (← build next)

/-- At most `n` copies in front of `done`; `next` is what follows the last one. -/
def atMost (build : Nat → Builder Nat) (greedy : Bool) (done : Nat) :
    Nat → (next : Nat) → Builder Nat
  | 0, next => return next
  | n + 1, next => do
    let copy ← build next
    atMost build greedy done n (← add (choose greedy copy done))

/-- One copy or more in front of `next`. -/
def atLeastOne (build : Nat → Builder Nat) (greedy : Bool) (next : Nat) : Builder Nat := do
  let again ← add .accept
  let copy ← build again
  put again (choose greedy copy next)
  return copy

/-- Any number of copies, which take characters, in front of `next`. -/
def anyNumber (build : Nat → Builder Nat) (greedy : Bool) (next : Nat) : Builder Nat := do
  let again ← add .accept
  let copy ← build again
  put again (choose greedy copy next)
  return again

end Automaton

open Automaton in
/-- The nodes of a pattern in front of `next`. What may take no character is repeated as "one or
more, or nothing", which keeps the order of its matches. -/
def Plain.build : Plain → (next : Nat) → Builder Nat
  | .empty, next => return next
  | .chars s, next => add (.chars s next)
  | .assertion a, next => add (.assertion a next)
  | .seq a b, next => do a.build (← b.build next)
  | .alt a b, next => do
    let first ← a.build next
    let second ← b.build next
    add (.choice first second)
  | .group index a, next => do
    let last ← add (.mark (2 * index + 1) next)
    let body ← a.build last
    add (.mark (2 * index) body)
  | .repeated lo (some hi) greedy a, next => do
    copies a.build lo (← atMost a.build greedy next (hi - lo) next)
  | .repeated 0 none greedy a, next => do
    if 0 < a.minWidth then anyNumber a.build greedy next
    else
      let copy ← atLeastOne a.build greedy next
      add (choose greedy copy next)
  | .repeated (lo + 1) none greedy a, next => do
    copies a.build lo (← atLeastOne a.build greedy next)

/-- The number of groups. -/
def Plain.groups : Plain → Nat
  | .empty | .chars _ | .assertion _ => 0
  | .seq a b | .alt a b => max a.groups b.groups
  | .group index a => max index a.groups
  | .repeated _ _ _ a => a.groups

/-- The automaton of a pattern. -/
def Plain.automaton (p : Plain) : Automaton :=
  let (start, nodes) := (p.build 0).run #[.accept]
  { nodes, start, slots := 2 * p.groups + 2 }

namespace Automaton

/-! ## Searching -/

/-- The places recorded under their numbers. -/
abbrev Marks := Array (Option Nat)

/-- A way through the automaton: the node it has come to, and what it has recorded. -/
structure Way where
  node : Nat
  marks : Marks

/-- The ways at one place of the text, the preferred ones first, and the nodes they have been to.
No node is gone to twice, because the first way to it is preferred. -/
structure Front where
  visited : Array Bool
  ways : Array Way := #[]

/-- Follows ways up to the nodes that take a character or accept. Every step but the first ones
comes from a node that is new, and a node leads to two others at most; `steps` bounds them. -/
def follow (a : Automaton) (text : Array Char) (place : Nat) :
    (steps : Nat) → List Way → Front → Front
  | 0, _, front => front
  | _, [], front => front
  | steps + 1, w :: ws, front =>
    if front.visited.getD w.node true then a.follow text place steps ws front
    else
      let front := { front with visited := front.visited.setIfInBounds w.node true }
      match a.nodes.getD w.node .accept with
      | .chars .. | .accept =>
        a.follow text place steps ws { front with ways := front.ways.push w }
      | .assertion c next =>
        if c.holds text place then a.follow text place steps ({ w with node := next } :: ws) front
        else a.follow text place steps ws front
      | .mark slot next =>
        let marks := w.marks.setIfInBounds slot (some place)
        a.follow text place steps (⟨next, marks⟩ :: ws) front
      | .choice first second =>
        a.follow text place steps ({ w with node := first } :: { w with node := second } :: ws)
          front

/-- The ways at a place that some ways lead to. -/
def front (a : Automaton) (text : Array Char) (place : Nat) (ws : List Way) : Array Way :=
  (a.follow text place (ws.length + 2 * a.nodes.size + 1) ws
    ⟨.replicate a.nodes.size false, #[]⟩).ways

/-- Takes a character on some ways, the preferred ones first. A way that accepts ends them: the
ways behind it are not preferred to it. Gives what it has recorded, and the ways that go on. -/
def advance (a : Automaton) (c : Option Char) (taken : List Way) :
    List Way → Option Marks × List Way
  | [] => (none, taken.reverse)
  | w :: ws =>
    match a.nodes.getD w.node .accept with
    | .accept => (some w.marks, taken.reverse)
    | .chars s next =>
      if c.any s.contains then a.advance c ({ w with node := next } :: taken) ws
      else a.advance c taken ws
    | _ => a.advance c taken ws

/-- Goes on with some ways from a place; `left` characters are left. -/
def run (a : Automaton) (text : Array Char) : (left place : Nat) → List Way →
    (found : Option (Nat × Marks)) → Option (Nat × Marks)
  | left, place, ws, found =>
    let (accepted, next) := a.advance text[place]? [] (a.front text place ws).toList
    let found := (accepted.map (place, ·)) <|> found
    match left with
    | 0 => found
    | left + 1 => if next.isEmpty then found else a.run text left (place + 1) next found

/-- The preferred match that begins at a place: where it ends, and what it has recorded. -/
def search? (a : Automaton) (text : Array Char) (place : Nat) : Option (Nat × Marks) :=
  a.run text (text.size - place) place [⟨a.start, .replicate a.slots none⟩] none

end Automaton

end TokenGrammar
