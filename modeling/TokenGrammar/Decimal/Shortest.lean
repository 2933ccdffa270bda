import TokenGrammar.Decimal.Nearest

/-!
# The fewest digits that read back

A finite positive number stands for an interval of reals, those that round to it: from halfway to
the number below up to halfway to the number above, with the ends if the significand is even.
`shortest` selects the decimal with the fewest digits in that interval, and of those the nearest
one. Everything is exact arithmetic on natural numbers.
-/

namespace TokenGrammar.Decimal

/-- Which of two equally close decimals is selected. -/
inductive Tie where
  | even
  | up
deriving DecidableEq, Repr

/-- The decimal `digits * 10 ^ exponent`. -/
structure Numeral where
  digits : Nat
  exponent : Int
deriving DecidableEq, Repr

namespace Numeral

/-- Moves trailing zeros of the digits into the exponent. -/
def strip (d : Numeral) : Numeral :=
  if h : d.digits ≠ 0 ∧ d.digits % 10 = 0 then
    strip ⟨d.digits / 10, d.exponent + 1⟩
  else d
termination_by d.digits
decreasing_by omega

/-- The exponent of the leading digit. -/
def lead (d : Numeral) : Int := digitCount d.digits + d.exponent - 1

end Numeral

/-- The least `k` with `a / b < 10 ^ k`, for positive `a` and `b`. -/
def decimalScale (a b : Nat) : Int :=
  if b ≤ a then digitCount (a / b) else 1 - (digitCount ((b - 1) / a) : Int)

/-- A double precision number and the two ends of its interval, in quarters of its last place. -/
structure Interval where
  low : Nat
  middle : Nat
  high : Nat
  /-- Whether the ends belong to the interval. -/
  closed : Bool
  /-- The unit of the three numbers is two to this power. -/
  unit : Int

namespace Interval

/-- The reals that round to a finite positive number. Just below a power of two the numbers are
half as far apart. -/
def of (x : Binary64) : Interval :=
  let m := x.significand
  let narrow := m = Binary64.leadingBit ∧ 2 * Binary64.leadingBit ≤ x.magnitude
  { low := 4 * m - if narrow then 1 else 2
    middle := 4 * m
    high := 4 * m + 2
    closed := m % 2 = 0
    unit := x.exponent - 2 }

/-- The member of the interval nearest to its middle among the multiples of `10 ^ k`. -/
def onGrid? (i : Interval) (tie : Tie) (k : Int) : Option Nat :=
  let (tens, tenths) := powers 10 k
  let (twos, halves) := powers 2 i.unit
  -- A multiple `n` of the grid compares as `n * step`, a number of the interval as `b * scale`.
  let step := tens * halves
  let scale := twos * tenths
  let inside (n : Nat) : Bool :=
    if i.closed then i.low * scale ≤ n * step && n * step ≤ i.high * scale
    else i.low * scale < n * step && n * step < i.high * scale
  let below := i.middle * scale / step
  match inside below, inside (below + 1) with
  | true, true =>
    match compare (2 * (i.middle * scale)) ((2 * below + 1) * step), tie with
    | .lt, _ => some below
    | .gt, _ | .eq, .up => some (below + 1)
    | .eq, .even => some (below + below % 2)
  | true, false => some below
  | false, true => some (below + 1)
  | false, false => none

/-- The middle of the interval, exactly. -/
def exact (i : Interval) : Numeral :=
  ⟨i.middle * (powers 2 i.unit).1 * (powers 5 i.unit).2, min 0 i.unit⟩

/-- The member of the interval with the fewest digits, nearest to its middle. Seventeen digits
are always enough. -/
def select (i : Interval) (tie : Tie) : Numeral :=
  let (twos, halves) := powers 2 i.unit
  let scale := decimalScale (i.middle * twos) halves
  let found := (List.range 17).findSome? fun (n : Nat) =>
    let k : Int := scale - (n + 1)
    (i.onGrid? tie k).map (⟨·, k⟩)
  (found.getD i.exact).strip

end Interval

/-- The decimal with the fewest digits that reads back as the magnitude of a finite number. -/
def shortest (tie : Tie) (x : Binary64) : Numeral :=
  if x.isZero then ⟨0, 0⟩ else (Interval.of x).select tie

end TokenGrammar.Decimal
