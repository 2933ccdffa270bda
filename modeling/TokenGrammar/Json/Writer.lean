import TokenGrammar.Decimal.Layout
import TokenGrammar.Json
import TokenGrammar.Text.RangeTable

/-!
# Writing JSON

Two layouts: `Json.compact` without any blank, and `Json.pretty` with one item or member a line,
indented by two blanks a level.
-/

namespace TokenGrammar

/-- Numbers in JSON: the fewest digits that identify them, positionally from 0.00001 to below 10^16
and with a signed exponent beyond. JSON has no word for what is not finite but `null`. -/
def jsonNumber : Decimal.Layout where
  exponential e := e < -5 || 16 ≤ e
  pointZero := true
  plusExponent := true
  tie := .even
  nan := "null".toList
  infinity := "null".toList

namespace Json

/-- The two hexadecimal digits of a number below 256. -/
def hexPair (n : Nat) : List Char := [Nat.digitChar (n / 16), Nat.digitChar (n % 16)]

/-- One character of a string: the quote, the backslash and control characters are escaped. -/
def escape (c : Char) : List Char :=
  if c = '\x22' then ['\\', '\x22']
  else if c = '\\' then ['\\', '\\']
  else if c = '\x08' then ['\\', 'b']
  else if c = '\x0c' then ['\\', 'f']
  else if c = '\n' then ['\\', 'n']
  else if c = '\r' then ['\\', 'r']
  else if c = '\t' then ['\\', 't']
  else if c.toNat < 0x20 then '\\' :: 'u' :: '0' :: '0' :: hexPair c.toNat
  else [c]

/-- A string in quotes. -/
def writeString (s : String) : List Char :=
  '\x22' :: s.toList.flatMap escape ++ ['\x22']

/-- A number. -/
def writeNumber : JsonNumber → List Char
  | .natural n => Decimal.digitChars n.toNat
  | .negative n => Decimal.integerChars n.toInt
  | .float x => if x.isFinite then jsonNumber.render x else "null".toList

/-- A text without items or members. -/
def writeAtom : Json → List Char
  | .null => "null".toList
  | .bool b => if b then "true".toList else "false".toList
  | .number n => writeNumber n
  | .string s => writeString s
  | .array _ => "[]".toList
  | .object _ => ['\x7b', '\x7d']

mutual

/-- The text without blanks. -/
def compact : Json → List Char
  | .array items => '[' :: [','].intercalate (compactItems items) ++ [']']
  | .object members => '\x7b' :: [','].intercalate (compactMembers members) ++ ['\x7d']
  | json => writeAtom json

/-- The items of an array without blanks. -/
def compactItems : List Json → List (List Char)
  | [] => []
  | json :: rest => compact json :: compactItems rest

/-- The members of an object without blanks. -/
def compactMembers : List (String × Json) → List (List Char)
  | [] => []
  | (name, json) :: rest => (writeString name ++ ':' :: compact json) :: compactMembers rest

end

/-- A line end, and the indentation of a level. -/
def newLine (level : Nat) : List Char := '\n' :: List.replicate (2 * level) ' '

/-- What stands between brackets at a level, one a line. -/
def block (level : Nat) (parts : List (List Char)) : List Char :=
  newLine (level + 1) ++ (',' :: newLine (level + 1)).intercalate parts ++ newLine level

mutual

/-- The text at a level of indentation. -/
def prettyAt (level : Nat) : Json → List Char
  | .array (item :: items) =>
    '[' :: block level (prettyAt (level + 1) item :: prettyItems (level + 1) items) ++ [']']
  | .object (member :: members) =>
    '\x7b' :: block level (prettyMembers (level + 1) (member :: members)) ++ ['\x7d']
  | json => writeAtom json

/-- The items of an array, at a level of indentation. -/
def prettyItems (level : Nat) : List Json → List (List Char)
  | [] => []
  | json :: rest => prettyAt level json :: prettyItems level rest

/-- The members of an object, at a level of indentation. -/
def prettyMembers (level : Nat) : List (String × Json) → List (List Char)
  | [] => []
  | (name, json) :: rest =>
    (writeString name ++ ':' :: ' ' :: prettyAt level json) :: prettyMembers level rest

end

/-- The text with one item or member a line. -/
def pretty (json : Json) : List Char := prettyAt 0 json

end Json

end TokenGrammar
