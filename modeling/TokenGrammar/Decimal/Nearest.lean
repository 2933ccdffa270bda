import TokenGrammar.Decimal.Binary64

/-!
# Rounding a decimal to double precision

`nearest` gives the double precision number closest to `m * 10 ^ e`, by exact arithmetic; of two
that are equally close the one with the even significand.
-/

namespace TokenGrammar.Decimal

/-- How many decimal digits a number has; zero has one. -/
def digitCount (n : Nat) : Nat :=
  if n < 10 then 1 else digitCount (n / 10) + 1

/-- The quotient rounded to the nearest integer, a half to the even one. -/
def roundHalfEven (num den : Nat) : Nat :=
  let q := num / den
  match compare (2 * (num % den)) den with
  | .lt => q
  | .gt => q + 1
  | .eq => q + q % 2

/-- The powers `b ^ e` and `b ^ (-e)`, each replaced by one where the exponent is negative. -/
def powers (b : Nat) (e : Int) : Nat × Nat := (Nat.pow b e.toNat, Nat.pow b (-e).toNat)

/-- The magnitude bits of the number nearest to `num / den`, both positive. -/
def nearestRatio (num den : Nat) : Nat :=
  -- Below `2 ^ (l + 1)` and above `2 ^ (l - 1)`.
  let l : Int := (num.log2 : Int) - den.log2
  let scaled (q : Int) : Nat × Nat :=
    let (up, down) := powers 2 q
    (num * down, den * up)
  let q := max (l - 53) (-1074)
  let (a, b) := scaled q
  let q := if 2 * Binary64.leadingBit * b ≤ a then q + 1 else q
  let (a, b) := scaled q
  (q + 1074).toNat * Binary64.leadingBit + roundHalfEven a b

/-- The number nearest to `m * 10 ^ e`, infinite if that is out of range. -/
def nearest (negative : Bool) (m : Nat) (e : Int) : Binary64 :=
  let top : Int := digitCount m + e
  let magnitude :=
    if m = 0 ∨ top < -330 then 0
    else if 310 < top then Binary64.infinityMagnitude
    else
      let (up, down) := powers 10 e
      nearestRatio (m * up) down
  .ofMagnitude negative (min magnitude Binary64.infinityMagnitude)

end TokenGrammar.Decimal
