/-!
# Double precision numbers

A floating point number is kept as its 64 bits: a sign, eleven bits of exponent and 52 bits of
fraction. So equality of numbers in this library is equality of bits; `Binary64.same` is the
comparison of the values.
-/

namespace TokenGrammar.Decimal

/-- A double precision number, by its bits. -/
structure Binary64 where
  bits : UInt64
deriving DecidableEq, Repr, Inhabited

namespace Binary64

/-- The sign bit. -/
def signBit : Nat := 0x8000000000000000

/-- The bit in front of the fraction: the leading bit of a significand, and the unit of the bits of
the exponent. -/
def leadingBit : Nat := 0x10000000000000

/-- The bits of positive infinity; greater magnitudes are no numbers. -/
def infinityMagnitude : Nat := 0x7FF0000000000000

/-- The number with a sign and the bits below it. -/
def ofMagnitude (negative : Bool) (magnitude : Nat) : Binary64 :=
  ⟨.ofNat (magnitude + if negative then signBit else 0)⟩

/-- Infinity, with a sign. -/
def infinity (negative : Bool) : Binary64 := ofMagnitude negative infinityMagnitude

/-- The result of reading a text that says that there is no number. -/
def nan (negative : Bool) : Binary64 := ofMagnitude negative 0x7FF8000000000000

/-- Whether the sign bit is set. -/
def negative (x : Binary64) : Bool := signBit ≤ x.bits.toNat

/-- The bits below the sign. -/
def magnitude (x : Binary64) : Nat := x.bits.toNat % signBit

/-- Whether the bits stand for no number. -/
def isNaN (x : Binary64) : Bool := infinityMagnitude < x.magnitude

/-- Whether the number is infinite. -/
def isInfinite (x : Binary64) : Bool := x.magnitude = infinityMagnitude

/-- Whether the bits stand for a finite number. -/
def isFinite (x : Binary64) : Bool := x.magnitude < infinityMagnitude

/-- Whether the number is zero, of either sign. -/
def isZero (x : Binary64) : Bool := x.magnitude = 0

/-- The significand `m` of a finite number, which is `m * 2 ^ x.exponent` apart from its sign. -/
def significand (x : Binary64) : Nat :=
  x.magnitude % leadingBit + if leadingBit ≤ x.magnitude then leadingBit else 0

/-- The exponent that belongs to `Binary64.significand`. -/
def exponent (x : Binary64) : Int :=
  ((max 1 (x.magnitude / leadingBit) : Nat) : Int) - 1075

/-- Equality of the values: the zeros are equal, and what is no number differs from all. -/
def same (x y : Binary64) : Bool :=
  !x.isNaN && !y.isNaN && (x = y || (x.isZero && y.isZero))

end Binary64

end TokenGrammar.Decimal
