import Std.Data.HashSet
import TokenGrammar.Regex.Plain.Tree

/-!
# How large an automaton is

A plain pattern is matched by an automaton over the bytes of a text in UTF-8, and by another one
that reads the text backwards. `Plain.size` counts the bytes that their states take. A pattern with
too large an automaton is refused, so sizes are computed without building anything: a repetition
counts as many copies as it stands for.
-/

namespace TokenGrammar

open Text (CharSet CodeRange)

/-- Bytes from a first to a last one. -/
structure ByteRange where
  first : UInt8
  last : UInt8
deriving BEq, Hashable

/-- Ranges of bytes, one for each byte of some characters with codes of the same length. -/
abbrev ByteRanges := List ByteRange

namespace ByteRanges

/-- Where a range of code points has to be divided so that each byte ranges for itself. -/
def division? (first last : Nat) : Option Nat :=
  match [0x80, 0x800, 0x10000].find? fun n => first < n && n ≤ last with
  | some n => some n
  | none =>
    if last < 0x80 then none
    else [0x40, 0x1000, 0x40000].findSome? fun n =>
      if first / n = last / n then none
      else if first % n ≠ 0 then some ((first / n + 1) * n)
      else if (last + 1) % n ≠ 0 then some (last / n * n)
      else none

/-- The byte ranges of a range of code points; `depth` bounds the divisions, of which at most three
are between codes of different lengths and two on each of three levels. -/
def ofRange : (depth : Nat) → (first last : Nat) → List ByteRanges
  | 0, _, _ => []
  | depth + 1, first, last =>
    match division? first last with
    | some n => ofRange depth first (n - 1) ++ ofRange depth n last
    | none =>
      [(String.utf8EncodeChar (.ofNat first)).zipWith ByteRange.mk
        (String.utf8EncodeChar (.ofNat last))]

/-- The byte ranges of a set, in ascending order. -/
def ofSet (s : CharSet) : List ByteRanges :=
  s.ranges.toList.flatMap fun (first, last) => ofRange 16 first last

/-- The lists of byte ranges by the first range; those with the same one are next to each other.
Gives what is behind the first range. -/
def branches (seqs : List ByteRanges) : List (List ByteRanges) :=
  (seqs.splitBy fun a b => a.head? == b.head?).map (·.map List.tail)

/-- Everything that may remain to be read on the way through some byte ranges, of which each has at
most `depth` bytes. -/
def remainders : (depth : Nat) → List ByteRanges → List (List ByteRanges)
  | 0, _ => []
  | depth + 1, seqs =>
    if seqs.all List.isEmpty then []
    else seqs :: (branches seqs).flatMap (remainders depth)

end ByteRanges

namespace Plain

/-- The bytes that one state takes. -/
def stateSize : Nat := 32

/-- The bytes that a state with some ranges of bytes takes. -/
def rangesSize (n : Nat) : Nat := stateSize + 8 * n

/-- The bytes of a state that branches to two states. -/
def branchSize : Nat := stateSize + 8

/-- The bytes of the states for one character of a set. Forwards there is one state for everything
that may remain to be read; backwards there is one for each beginning. -/
def charsSize (backward : Bool) (s : CharSet) : Nat :=
  match s.single? with
  | some c => stateSize * c.utf8Size
  | none =>
    let ranges := s.ranges.size
    if s.ranges.all (·.2 < 0x80) then
      if ranges ≤ 1 then 2 * stateSize else stateSize + rangesSize ranges
    else
      let seqs := ByteRanges.ofSet s
      let remainders := ByteRanges.remainders 4 seqs
      if backward then
        let states := remainders.foldl (fun n seqs => n + (ByteRanges.branches seqs).length) 0
        stateSize * states + 2 * stateSize + 4 * seqs.length
      else
        let states := Std.HashSet.ofList remainders
        states.fold (fun n seqs => n + rangesSize (ByteRanges.branches seqs).length) stateSize

/-- The bytes of the states of a pattern. -/
def size (backward : Bool) : Plain → Nat
  | .empty | .assertion _ => stateSize
  | .chars s => charsSize backward s
  | .seq a b => a.size backward + b.size backward
  | .alt a b =>
    let rest := b.size backward
    a.size backward + 4 +
      match b with
      | .alt .. => rest
      | _ => rest + 2 * stateSize + 4
  | .group _ a => a.size backward + if backward then 0 else 2 * stateSize
  | .repeated lo hi _ a =>
    let copy := a.size backward
    match lo, hi with
    | 0, some 1 => copy + branchSize + stateSize
    | lo, some hi =>
      if lo = hi then lo * copy
      else
        (if lo = 0 then stateSize else lo * copy) + stateSize + (hi - lo) * (copy + branchSize)
    | 0, none =>
      if 0 < a.minWidth then copy + branchSize else copy + 2 * branchSize + stateSize
    | lo, none => lo * copy + branchSize

/-- The bytes that an automaton may take. -/
def maxSize : Nat := 0xA00000

/-- Whether the automata of the pattern are small enough; each has a few states besides those of
the pattern. -/
def isSmall (p : Plain) : Bool :=
  p.size false + 0x100 ≤ maxSize && p.size true + 0x100 ≤ maxSize

end Plain

end TokenGrammar
