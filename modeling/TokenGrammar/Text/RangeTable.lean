/-!
# Tables of code points

Properties of characters are stored as tables of code point ranges in ascending order, written as
text ("41-5A 61-7A", both ends included, in base sixteen) and searched by halving.

* `RangeTable.find?`: the entry of the range that holds a code point.
-/

namespace TokenGrammar.Text

/-- The value of a hexadecimal digit. -/
def hexDigit? (c : Char) : Option Nat :=
  if '0' ≤ c ∧ c ≤ '9' then some (c.toNat - '0'.toNat)
  else if 'A' ≤ c ∧ c ≤ 'F' then some (c.toNat - 'A'.toNat + 10)
  else if 'a' ≤ c ∧ c ≤ 'f' then some (c.toNat - 'a'.toNat + 10)
  else none

/-- The number that hexadecimal digits spell; characters that are no digits count as zero. -/
def hexValue (digits : List Char) : Nat :=
  digits.foldl (fun n c => 16 * n + (hexDigit? c).getD 0) 0

/-- Splits at the first character that satisfies `p`, which is dropped. -/
def splitFirst (p : Char → Bool) (cs : List Char) : List Char × List Char :=
  (cs.takeWhile (!p ·), (cs.dropWhile (!p ·)).drop 1)

/-- The words of a text: its longest runs without a blank or a line end. -/
def wordsOf (cs : List Char) : List (List Char) :=
  (cs.splitOnP fun c => c = ' ' || c = '\n').filter (!·.isEmpty)

/-- Rows of an inclusive range of numbers and what belongs to it, in ascending order. -/
structure RangeTable (α : Type) where
  rows : Array (Nat × Nat × α)

namespace RangeTable

/-- The row with an index in `[lo, hi)` whose range holds `n`. -/
def findBetween (t : RangeTable α) (n lo hi : Nat) : Option α :=
  if lo < hi then
    let mid := (lo + hi) / 2
    match t.rows[mid]? with
    | none => none
    | some (first, last, a) =>
      if n < first then t.findBetween n lo mid
      else if last < n then t.findBetween n (mid + 1) hi
      else some a
  else none
termination_by hi - lo

/-- What belongs to the range that holds `n`. -/
def find? (t : RangeTable α) (n : Nat) : Option α :=
  t.findBetween n 0 t.rows.size

/-- Reads one range, "41-5A" or "41". -/
def readRange (word : List Char) : Nat × Nat :=
  let (first, last) := splitFirst (· = '-') word
  (hexValue first, hexValue (if last.isEmpty then first else last))

/-- Reads rows of the form "41-5A:Lu"; `entry` reads what follows the colon. -/
def ofText (entry : List Char → α) (text : String) : RangeTable α :=
  ⟨((wordsOf text.toList).map fun word =>
    let (range, rest) := splitFirst (· = ':') word
    let (first, last) := readRange range
    (first, last, entry rest)).toArray⟩

end RangeTable

end TokenGrammar.Text
