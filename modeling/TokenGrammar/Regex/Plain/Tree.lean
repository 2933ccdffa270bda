import TokenGrammar.Regex.Assertion
import TokenGrammar.Text.CharSet

/-!
# Plain patterns

A plain pattern has neither look-around nor references, so an automaton can match it. The
constructors are simplified as a pattern is built (`Plain.ofSequence`, `Plain.ofAlternatives`,
`Plain.ofRepetition`), which decides how large its automaton is.
-/

namespace TokenGrammar

open Text (CharSet)

/-- A plain pattern. -/
inductive Plain where
  | empty
  /-- One character of a set. -/
  | chars (s : CharSet)
  | assertion (a : Assertion)
  | seq (a b : Plain)
  /-- The first alternative is preferred. -/
  | alt (a b : Plain)
  /-- Records where it matches. -/
  | group (index : Nat) (a : Plain)
  /-- At least `lo` times and at most `hi` times; a greedy one prefers more. -/
  | repeated (lo : Nat) (hi : Option Nat) (greedy : Bool) (a : Plain)
deriving Inhabited

namespace Plain

/-- The fewest characters that a match takes. -/
def minWidth : Plain → Nat
  | .chars _ => 1
  | .seq a b => a.minWidth + b.minWidth
  | .alt a b => min a.minWidth b.minWidth
  | .group _ a => a.minWidth
  | .repeated lo _ _ a => lo * a.minWidth
  | .empty | .assertion _ => 0

/-- Whether no match takes a character. -/
def isWidthless : Plain → Bool
  | .empty | .assertion _ => true
  | .chars _ => false
  | .seq a b | .alt a b => a.isWidthless && b.isWidthless
  | .group _ a | .repeated _ _ _ a => a.isWidthless

/-- Plain patterns one after the other. -/
def ofSequence : List Plain → Plain
  | [] => .empty
  | .empty :: ps => ofSequence ps
  | p :: ps =>
    match ofSequence ps with
    | .empty => p
    | rest => .seq p rest

/-- The alternatives of a pattern. -/
def alternatives : Plain → List Plain
  | .alt a b => a.alternatives ++ b.alternatives
  | p => [p]

/-- The set of a pattern that is one character of a set. -/
def chars? : Plain → Option CharSet
  | .chars s => some s
  | _ => none

/-- Alternatives in order of preference. -/
def chain : List Plain → Plain
  | [] => .chars .empty
  | [p] => p
  | p :: ps => .alt p (chain ps)

/-- Patterns of which one matches; characters, or sets of several ones, become one set. -/
def ofAlternatives (ps : List Plain) : Plain :=
  let ps := ps.flatMap alternatives
  match ps.mapM chars? with
  | some sets =>
    let singles := sets.filter (·.single?.isSome)
    if singles.isEmpty || singles.length = sets.length then .chars (.unions sets) else chain ps
  | none => chain ps

/-- A pattern repeated. What takes no character is not repeated more than once. -/
def ofRepetition (lo : Nat) (hi : Option Nat) (greedy : Bool) (p : Plain) : Plain :=
  let (lo, hi) :=
    if p.isWidthless then (min lo 1, some (min (hi.getD 1) 1)) else (lo, hi)
  if lo = 0 && hi = some 0 then .empty
  else if lo = 1 && hi = some 1 then p
  else .repeated lo hi greedy p

end Plain

end TokenGrammar
