import TokenGrammar.Decimal.Integer
import TokenGrammar.Decimal.Nearest

/-!
# Reading floating point numbers

The texts of floating point numbers, without white space around them.
-/

namespace TokenGrammar.Decimal

/-- Digits with at most one point among or around them: the digits as a number, and how many of
them stand behind the point. -/
def readFixed? (cs : List Char) : Option (Nat × Nat) :=
  let whole := cs.takeWhile isDigit
  let rest := cs.dropWhile isDigit
  let fraction := match rest with
    | '.' :: digits => some digits
    | [] => some []
    | _ => none
  fraction.bind fun digits => (readDigits? (whole ++ digits)).map (·, digits.length)

/-- Whether the character announces an exponent. -/
def isExponentMark (c : Char) : Bool := c = 'e' || c = 'E'

/-- Reads a decimal with an optional exponent. -/
def readDecimal? (negative : Bool) (cs : List Char) : Option Binary64 :=
  let mantissa := cs.takeWhile (!isExponentMark ·)
  let exponent := match cs.dropWhile (!isExponentMark ·) with
    | [] => some 0
    | _ :: rest => readInteger? rest
  exponent.bind fun e =>
    (readFixed? mantissa).map fun (m, places) => nearest negative m (e - places)

/-- Reads a floating point number: a decimal, or the name of an infinity or of no number, in any
case, each with an optional sign. -/
def readFloat? (cs : List Char) : Option Binary64 :=
  let (negative, body) := readSign cs
  let name := String.ofList (body.map Char.toLower)
  if name = "inf" ∨ name = "infinity" then some (.infinity negative)
  else if name = "nan" then some (.nan negative)
  else readDecimal? negative body

end TokenGrammar.Decimal
