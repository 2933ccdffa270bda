import TokenGrammar.Decimal.Binary64

/-!
# JSON

JSON texts as data. An object keeps its members in the order of the text, repeated names included.
-/

namespace TokenGrammar

open Decimal (Binary64)

/-- A JSON number: an integer of 64 bits without a sign, a negative one with a sign, or any other
number. -/
inductive JsonNumber where
  | natural (n : UInt64)
  | negative (n : Int64)
  | float (x : Binary64)
deriving DecidableEq, Repr

/-- A JSON text. -/
inductive Json where
  | null
  | bool (b : Bool)
  | number (n : JsonNumber)
  | string (s : String)
  | array (items : List Json)
  | object (members : List (String × Json))
deriving Repr, Inhabited

namespace JsonNumber

/-- The number of an integer of 64 bits with a sign. -/
def ofInt64 (n : Int64) : JsonNumber :=
  if n < 0 then .negative n else .natural n.toUInt64

end JsonNumber

end TokenGrammar
