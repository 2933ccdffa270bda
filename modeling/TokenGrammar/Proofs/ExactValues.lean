import TokenGrammar.Value.Json
import Mathlib.Data.Nat.Digits.Defs

/-!
# Values without floating point numbers

Values whose texts say all about them: booleans, integers, texts, and lists of such values. The
digits of an integer are read back as the integer, whatever notation they stand in.

* `Value.Exact`: no floating point number at any depth, with lists item by item as in the induction
  over such values;
* `Decimal.readInteger?_integerChars`, `Decimal.readInt64?_integerChars`: integers survive their
  texts.
-/

namespace TokenGrammar

/-! ## Digits -/

namespace Decimal

theorem isDigit_of_mem_digitChars {n : Nat} {c : Char} (h : c ∈ digitChars n) :
    isDigit c = true := by
  have hdigit : c.isDigit = true := Nat.isDigit_of_mem_toDigits (by omega) (by omega) h
  simpa [isDigit, Char.isDigit, Char.le_def] using hdigit

theorem digitChars_ne_nil (n : Nat) : digitChars n ≠ [] := Nat.toDigits_ne_nil

/-- Digits spell the number that they are the digits of. -/
theorem digitsValue_digitChars (n : Nat) : digitsValue (digitChars n) = n :=
  Nat.ofDigitChars_toDigits (by omega) (by omega)

theorem readDigits?_digitChars (n : Nat) : readDigits? (digitChars n) = some n := by
  have hall : (digitChars n).all isDigit = true :=
    List.all_eq_true.mpr fun _ hc => isDigit_of_mem_digitChars hc
  rw [readDigits?, if_pos ⟨digitChars_ne_nil n, hall⟩, digitsValue_digitChars]

/-- No digit is a sign. -/
theorem readSign_digitChars (n : Nat) : readSign (digitChars n) = (false, digitChars n) := by
  cases hdigits : digitChars n with
  | nil => exact absurd hdigits (digitChars_ne_nil n)
  | cons c cs =>
    have hc : isDigit c = true := isDigit_of_mem_digitChars (hdigits ▸ List.mem_cons_self)
    have hminus : c ≠ '-' := by rintro rfl; cases hc
    have hplus : c ≠ '+' := by rintro rfl; cases hc
    rw [readSign]
    · exact fun _ heq => hminus (List.cons.inj heq).1
    · exact fun _ heq => hplus (List.cons.inj heq).1

/-- Whether the character may stand in an integer. -/
def isIntegerChar (c : Char) : Bool := c = '-' || isDigit c

theorem isIntegerChar_of_mem_digitChars {n : Nat} {c : Char} (h : c ∈ digitChars n) :
    isIntegerChar c = true := by
  rw [isIntegerChar, isDigit_of_mem_digitChars h, Bool.or_true]

theorem isIntegerChar_of_mem_integerChars {n : Int} {c : Char} (h : c ∈ integerChars n) :
    isIntegerChar c = true := by
  rw [integerChars] at h
  split at h
  · obtain rfl | h := List.mem_cons.mp h
    · rfl
    · exact isIntegerChar_of_mem_digitChars h
  · exact isIntegerChar_of_mem_digitChars h

theorem ne_of_isIntegerChar {c d : Char} (hc : isIntegerChar c = true)
    (hd : isIntegerChar d = false) : c ≠ d := by
  rintro rfl
  exact absurd hc (hd ▸ Bool.false_ne_true)

/-- An integer is another word than one with a character that integers have not. -/
theorem ne_of_mem {integer word : List Char} (h : ∀ c ∈ integer, isIntegerChar c = true) {d : Char}
    (hd : d ∈ word) (hother : isIntegerChar d = false) : integer ≠ word := by
  rintro rfl
  exact ne_of_isIntegerChar (h d hd) hother rfl

theorem integerChars_ne_nil (n : Int) : integerChars n ≠ [] := by
  rw [integerChars]
  split
  · exact List.cons_ne_nil _ _
  · exact digitChars_ne_nil _

/-- An integer is read back from its digits and its sign. -/
theorem readInteger?_integerChars (n : Int) : readInteger? (integerChars n) = some n := by
  rw [readInteger?]
  by_cases hn : n < 0
  · simp only [integerChars, if_pos hn, readSign, readDigits?_digitChars, if_true]
    show some (-(n.natAbs : Int)) = some n
    rw [Int.ofNat_natAbs_of_nonpos hn.le, neg_neg]
  · simp only [integerChars, if_neg hn, readSign_digitChars, readDigits?_digitChars,
      Bool.false_eq_true, if_false]
    show some (n.natAbs : Int) = some n
    rw [Int.natAbs_of_nonneg (not_lt.mp hn)]

theorem toInt64?_toInt (n : Int64) : toInt64? n.toInt = some n := by
  rw [toInt64?, if_pos ⟨n.minValue_le_toInt, n.toInt_le⟩, Int64.ofInt_toInt]

/-- So is an integer of 64 bits, the least and the greatest one included. -/
theorem readInt64?_integerChars (n : Int64) : readInt64? (integerChars n.toInt) = some n := by
  rw [readInt64?, readInteger?_integerChars, Option.bind_some, toInt64?_toInt]

end Decimal

/-! ## Values -/

namespace Value

/-- The value has no floating point number in it. -/
inductive Exact : Value → Prop where
  | bool (b : Bool) : Exact (.bool b)
  | int (n : Int64) : Exact (.int n)
  | str (s : String) : Exact (.str s)
  | list {items : List Value} (h : ∀ v ∈ items, Exact v) : Exact (.list items)

/-- Texts have no floating point number in them. -/
theorem exact_of_mem_map_str {texts : List String} {v : Value} (h : v ∈ texts.map str) :
    v.Exact := by
  obtain ⟨s, -, rfl⟩ := List.mem_map.mp h
  exact .str s

end Value

end TokenGrammar
