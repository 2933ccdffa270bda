import TokenGrammar.Text.RangeTable

/-!
# Sets of characters

A set of characters is a list of ranges of code points in ascending order that neither overlap nor
touch. Surrogates are no characters, so no set holds one.

* `CharSet.contains`: membership, by halving;
* `CharSet.union`, `CharSet.inter`, `CharSet.diff`, `CharSet.complement`: the set operations.
-/

namespace TokenGrammar.Text

/-- Code points from a first to a last one, both included. -/
abbrev CodeRange := Nat × Nat

namespace CodeRange

/-- The last code point. -/
def maxCode : Nat := 0x10FFFF

/-- Joins the ranges that overlap or touch; they are in ascending order of where they begin, and
`r` is in front of them. -/
def joinFrom (r : CodeRange) : List CodeRange → List CodeRange
  | [] => [r]
  | next :: rest =>
    if next.1 ≤ r.2 + 1 then joinFrom (r.1, max r.2 next.2) rest else r :: joinFrom next rest

/-- Ranges in any order as ascending ones that neither overlap nor touch. -/
def normalize (rs : List CodeRange) : List CodeRange :=
  match rs.mergeSort fun a b => a.1 ≤ b.1 with
  | [] => []
  | r :: rest => joinFrom r rest

/-- What lies between ascending ranges, from `start` up to the last code point. -/
def gaps (start : Nat) : List CodeRange → List CodeRange
  | [] => if start ≤ maxCode then [(start, maxCode)] else []
  | (first, last) :: rest =>
    if start < first then (start, first - 1) :: gaps (last + 1) rest else gaps (last + 1) rest

/-- What two lists of ascending ranges have in common. -/
def common : List CodeRange → List CodeRange → List CodeRange
  | [], _ => []
  | _, [] => []
  | (a, b) :: rs, (c, d) :: ss =>
    let rest := if b < d then common rs ((c, d) :: ss) else common ((a, b) :: rs) ss
    if max a c ≤ min b d then (max a c, min b d) :: rest else rest
termination_by rs ss => rs.length + ss.length

end CodeRange

/-- A set of characters. -/
structure CharSet where
  ranges : Array CodeRange
deriving DecidableEq, Repr, Inhabited

namespace CharSet

/-- Whether one of the ranges with an index in `[lo, hi)` holds `n`. -/
def holdsBetween (s : CharSet) (n lo hi : Nat) : Bool :=
  if lo < hi then
    let mid := (lo + hi) / 2
    match s.ranges[mid]? with
    | none => false
    | some (first, last) =>
      if n < first then s.holdsBetween n lo mid
      else if last < n then s.holdsBetween n (mid + 1) hi
      else true
  else false
termination_by hi - lo

/-- Whether the set holds the character. -/
def contains (s : CharSet) (c : Char) : Bool := s.holdsBetween c.toNat 0 s.ranges.size

/-- The set of no characters. -/
def empty : CharSet := ⟨#[]⟩

/-- The set of all characters. -/
def all : CharSet := ⟨#[(0, 0xD7FF), (0xE000, CodeRange.maxCode)]⟩

/-- The characters of some ranges of code points. -/
def ofPairs (rs : List CodeRange) : CharSet :=
  ⟨(CodeRange.common (CodeRange.normalize rs) all.ranges.toList).toArray⟩

/-- Reads ranges of the form "41-5A" or "AA". -/
def ofRanges (text : String) : CharSet :=
  ofPairs ((wordsOf text.toList).map RangeTable.readRange)

/-- The characters from a first to a last one. -/
def between (first last : Char) : CharSet := ofPairs [(first.toNat, last.toNat)]

/-- The set of one character. -/
def single (c : Char) : CharSet := ⟨#[(c.toNat, c.toNat)]⟩

/-- The set of some characters. -/
def ofChars (cs : List Char) : CharSet := ofPairs (cs.map fun c => (c.toNat, c.toNat))

/-- The characters of either set. -/
def union (s t : CharSet) : CharSet := ofPairs (s.ranges.toList ++ t.ranges.toList)

/-- The characters of both sets. -/
def inter (s t : CharSet) : CharSet :=
  ⟨(CodeRange.common s.ranges.toList t.ranges.toList).toArray⟩

/-- The characters of the first set that the second one does not hold. -/
def diff (s t : CharSet) : CharSet :=
  ⟨(CodeRange.common s.ranges.toList (CodeRange.gaps 0 t.ranges.toList)).toArray⟩

/-- The characters of one set only. -/
def symmDiff (s t : CharSet) : CharSet := (s.diff t).union (t.diff s)

/-- The characters that the set does not hold. -/
def complement (s : CharSet) : CharSet := all.diff s

/-- The characters of some sets. -/
def unions (sets : List CharSet) : CharSet :=
  ofPairs (sets.flatMap (·.ranges.toList))

/-- Whether the set holds no character. -/
def isEmpty (s : CharSet) : Bool := s.ranges.isEmpty

/-- The character of a set of one character. -/
def single? (s : CharSet) : Option Char :=
  match s.ranges.toList with
  | [(first, last)] => if first = last then some (.ofNat first) else none
  | _ => none

end CharSet

/-- The characters with an entry that satisfies `p`. -/
def RangeTable.setOf (t : RangeTable α) (p : α → Bool) : CharSet :=
  .ofPairs (t.rows.toList.filterMap fun (first, last, a) =>
    if p a then some (first, last) else none)

end TokenGrammar.Text
