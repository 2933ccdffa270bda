import TokenGrammar.Document
import TokenGrammar.Json.Reader
import TokenGrammar.Json.Writer
import TokenGrammar.Namespace

/-!
# Values as JSON

A value is written as the JSON of its kind, and what is not finite as `null`. A JSON text is read
back as the first kind that fits: an integer before a floating point number.
-/

namespace TokenGrammar

namespace Value

mutual

/-- The JSON of a value. -/
def toJson : Value → Json
  | .bool b => .bool b
  | .int n => .number (.ofInt64 n)
  | .float x => if x.isFinite then .number (.float x) else .null
  | .str s => .string s
  | .list items => .array (toJsons items)

/-- The JSON of each value. -/
def toJsons : List Value → List Json
  | [] => []
  | v :: vs => toJson v :: toJsons vs

end

/-- Reads a value from a JSON text. -/
def ofJsonText? (text : String) : Option Value :=
  (Json.ofText? text).bind fun json => (Document.ofJson json).value?

end Value

namespace Nargs

/-- Reads a count of values from a JSON text. -/
def ofJsonText? (text : String) : Option Nargs :=
  (Json.ofText? text).bind fun json => (Document.ofJson json).nargs?

end Nargs

namespace Namespace

/-- The attributes as a JSON object, in ascending order of their names. -/
def toJson (ns : Namespace) : Json :=
  .object (ns.entries.map fun (name, value) => (name, value.toJson))

/-- Reads attributes from a JSON text. -/
def ofJsonText? (text : String) : Option Namespace :=
  (Json.ofText? text).bind fun json => (Document.ofJson json).namespace?

end Namespace

end TokenGrammar
