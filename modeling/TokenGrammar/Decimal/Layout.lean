import TokenGrammar.Decimal.Integer
import TokenGrammar.Decimal.Shortest

/-!
# Writing numbers

A `Layout` fixes how the selected digits of a number are written: where positional notation ends,
whether an integral value shows a zero after the point, and the spelling of the exponent.
-/

namespace TokenGrammar.Decimal

/-- The decisions of a number format. -/
structure Layout where
  /-- The exponents of the leading digit that are written with an exponent. -/
  exponential : Int → Bool
  /-- Whether an integral value in positional notation ends in ".0". -/
  pointZero : Bool
  /-- Whether a positive exponent has a sign. -/
  plusExponent : Bool
  /-- Which of two equally close decimals is written. -/
  tie : Tie
  nan : List Char
  infinity : List Char

namespace Layout

/-- Positional notation. -/
def positional (l : Layout) (d : Numeral) : List Char :=
  let digits := digitChars d.digits
  if 0 ≤ d.exponent then
    digits ++ List.replicate d.exponent.toNat '0' ++ if l.pointZero then ['.', '0'] else []
  else
    let places := (-d.exponent).toNat
    let padded := List.replicate (places + 1 - digits.length) '0' ++ digits
    padded.take (padded.length - places) ++ '.' :: padded.drop (padded.length - places)

/-- Notation with one digit before the point and an exponent. -/
def withExponent (l : Layout) (d : Numeral) : List Char :=
  let digits := digitChars d.digits
  let e := d.lead
  let sign := if e < 0 then ['-'] else if l.plusExponent then ['+'] else []
  digits.take 1 ++ (if digits.length ≤ 1 then [] else '.' :: digits.drop 1) ++
    'e' :: sign ++ digitChars e.natAbs

/-- The text of a number. -/
def render (l : Layout) (x : Binary64) : List Char :=
  if x.isNaN then l.nan
  else
    let sign := if x.negative then ['-'] else []
    if x.isInfinite then sign ++ l.infinity
    else
      let d := shortest l.tie x
      sign ++ if !x.isZero && l.exponential d.lead then l.withExponent d else l.positional d

end Layout

end TokenGrammar.Decimal
