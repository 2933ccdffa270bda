/-!
# Integers in decimal digits

Writing integers, and reading them back from texts without white space around them.
-/

namespace TokenGrammar.Decimal

/-- The decimal digits of a number. -/
def digitChars (n : Nat) : List Char := Nat.toDigits 10 n

/-- The decimal digits of an integer, with a minus in front of a negative one. -/
def integerChars (n : Int) : List Char :=
  if n < 0 then '-' :: digitChars n.natAbs else digitChars n.natAbs

/-- Whether the character is one of the ten digits. -/
def isDigit (c : Char) : Bool := '0' ≤ c && c ≤ '9'

/-- The number that digits spell. -/
def digitsValue (digits : List Char) : Nat :=
  digits.foldl (fun n c => 10 * n + (c.toNat - '0'.toNat)) 0

/-- Reads one digit or more, and nothing else. -/
def readDigits? (cs : List Char) : Option Nat :=
  if cs ≠ [] ∧ cs.all isDigit then some (digitsValue cs) else none

/-- A sign in front, if there is one: whether it is negative, and the rest. -/
def readSign : List Char → Bool × List Char
  | '-' :: cs => (true, cs)
  | '+' :: cs => (false, cs)
  | cs => (false, cs)

/-- Reads an integer of any size, with or without a sign. -/
def readInteger? (cs : List Char) : Option Int :=
  let (negative, digits) := readSign cs
  (readDigits? digits).map fun n => if negative then -(n : Int) else n

/-- The integer in 64 bits with a sign, if it fits. -/
def toInt64? (n : Int) : Option Int64 :=
  if Int64.minValue.toInt ≤ n ∧ n ≤ Int64.maxValue.toInt then some (.ofInt n) else none

/-- The number in 64 bits without a sign, if it fits. -/
def toUInt64? (n : Nat) : Option UInt64 :=
  if n < UInt64.size then some (.ofNat n) else none

/-- Reads an integer of 64 bits with a sign. -/
def readInt64? (cs : List Char) : Option Int64 := (readInteger? cs).bind toInt64?

/-- Reads an integer of 64 bits without a sign; a plus in front is allowed. -/
def readUInt64? (cs : List Char) : Option UInt64 :=
  let digits := match cs with
    | '+' :: rest => rest
    | _ => cs
  (readDigits? digits).bind toUInt64?

end TokenGrammar.Decimal
