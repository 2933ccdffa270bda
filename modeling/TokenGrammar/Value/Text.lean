import TokenGrammar.Value
import TokenGrammar.Decimal.Layout
import TokenGrammar.Text.Quoted
import TokenGrammar.Text.Escaped

/-!
# Values as text

Two notations for values. `Value.literal` is the one of messages: `True`, `1.0`, quoted texts.
`Value.display` is the one for reading: `true`, `1`, escaped texts.
-/

namespace TokenGrammar

open Decimal (Layout integerChars)

/-- Numbers in messages: the fewest digits that identify them, positionally from 0.0001 to below
10^16 and with an exponent beyond, always with a point or an exponent. -/
def literalNumber : Layout where
  exponential e := e < -4 || 16 ≤ e
  pointZero := true
  plusExponent := false
  tie := .up
  nan := "NaN".toList
  infinity := "inf".toList

/-- Displayed numbers: the fewest digits that identify them, never with an exponent. -/
def displayNumber : Layout where
  exponential _ := false
  pointZero := false
  plusExponent := false
  tie := .up
  nan := "NaN".toList
  infinity := "inf".toList

/-- Items between brackets, with a comma and a blank between two of them. -/
def bracketed (items : List (List Char)) : List Char :=
  '[' :: [',', ' '].intercalate items ++ [']']

/-- A list of tokens, as it stands in messages. -/
def tokenList (tokens : List String) : List Char :=
  bracketed (tokens.map fun token => Text.Quoted.encode token.toList)

namespace Value

mutual

/-- The value as it stands in messages. -/
def literal : Value → List Char
  | .bool b => if b then "True".toList else "False".toList
  | .int n => integerChars n.toInt
  | .float x => literalNumber.render x
  | .str s => Text.Quoted.encode s.toList
  | .list items => bracketed (literals items)

/-- The values of a list, one by one. -/
def literals : List Value → List (List Char)
  | [] => []
  | v :: vs => literal v :: literals vs

end

mutual

/-- The value for reading. -/
def display : Value → List Char
  | .bool b => if b then "true".toList else "false".toList
  | .int n => integerChars n.toInt
  | .float x => displayNumber.render x
  | .str s => Text.Escaped.encode s.toList
  | .list items => bracketed (displays items)

/-- The values of a list, one by one. -/
def displays : List Value → List (List Char)
  | [] => []
  | v :: vs => display v :: displays vs

end

end Value

/-- A list of values, as it stands in messages. -/
def valueList (values : List Value) : List Char := bracketed (Value.literals values)

end TokenGrammar
