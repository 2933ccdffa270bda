import TokenGrammar.Text.RangeTable

/-!
# Case tables

A case table shifts the code points of a range by a distance, all of them or, where capital and
small letters alternate, only the even or the odd ones.
-/

namespace TokenGrammar.Text

/-- A distance between code points, and the parity of the code points that it applies to. -/
structure Shift where
  distance : Int
  parity : Option Nat

namespace Shift

/-- Reads "+20", "-8" or, with a parity, "+1/0". -/
def ofText (text : List Char) : Shift :=
  let (distance, parity) := splitFirst (· = '/') text
  { distance := if distance.head? = some '-' then -(hexValue (distance.drop 1) : Int)
      else hexValue (distance.drop 1)
    parity := if parity.isEmpty then none else some (hexValue parity) }

/-- The code point at the distance, if the shift applies to `n`. -/
def target? (s : Shift) (n : Nat) : Option Nat :=
  match s.parity with
  | some p => if n % 2 = p then some (n + s.distance).toNat else none
  | none => some (n + s.distance).toNat

end Shift

/-- The character that a case table maps `c` to; `c` itself where the table is silent. -/
def RangeTable.shift (t : RangeTable Shift) (c : Char) : Char :=
  match (t.find? c.toNat).bind (·.target? c.toNat) with
  | some n => .ofNat n
  | none => c

end TokenGrammar.Text
