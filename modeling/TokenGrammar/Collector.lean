import TokenGrammar.Decimal.Reader
import TokenGrammar.Nargs
import TokenGrammar.State

/-!
# Collecting values

A collector takes values from the front of the tokens, greedily but bounded: it stops where the
upper bound is met, where a token is missing or not accepted, where a token looks like a flag and
the lower bound is met, or where the conversion of a token fails. With fewer values than the lower
bound it does not match, and nothing is consumed.

* `Collector.gather`: the values of the leading tokens that are taken;
* `Collector.collect`: the step that takes them.
-/

namespace TokenGrammar

/-- How a token becomes a value. -/
inductive ValueType where
  | int
  | float
  /-- A conversion of its own, which fails by giving nothing. -/
  | custom (convert : String → Option Value)

namespace ValueType

/-- Converts a token. Numbers may stand between white space. -/
def convert : ValueType → String → Option Value
  | .int, token => (Decimal.readInt64? (Text.trim token).toList).map .int
  | .float, token => (Decimal.readFloat? (Text.trim token).toList).map .float
  | .custom f, token => f token

/-- The type with a name. -/
def ofText (name : String) : Except GrammarError ValueType :=
  if name = "int" then .ok .int
  else if name = "float" then .ok .float
  else .error (.unknownType name)

/-- The type as it is described to a developer. -/
def describe : ValueType → String
  | .int => "Int"
  | .float => "Float"
  | .custom _ => "Custom(..)"

end ValueType

/-- Which tokens are accepted as values, and what is stored for them. -/
structure ValueFilter where
  /-- Stored in place of each token. -/
  constant : Option Value := none
  /-- The accepted tokens, unless the list is empty. -/
  choices : List String := []
  valueType : Option ValueType := none
  /-- Which tokens a pattern accepts, if there is one. -/
  pattern : Option (String → Bool) := none
  /-- The characters that make a token look like a flag. -/
  prefixChars : String := ""

/-- Whether the text starts with one of the characters. -/
def startsWithAny (chars : String) (text : String) : Bool :=
  text.toList.head?.any (· ∈ chars.toList)

namespace ValueFilter

/-- Whether the token is accepted by the pattern and among the choices. -/
def accepts (f : ValueFilter) (token : String) : Bool :=
  f.pattern.all (· token) && (f.choices.isEmpty || token ∈ f.choices)

/-- Whether the token starts with a prefix character. -/
def looksLikeFlag (f : ValueFilter) (token : String) : Bool := startsWithAny f.prefixChars token

/-- What is stored for the token: the constant, the converted token, or the token itself. -/
def valueOf? (f : ValueFilter) (token : String) : Option Value :=
  match f.constant, f.valueType with
  | some constant, _ => some constant
  | none, some type => type.convert token
  | none, none => some (.str token)

end ValueFilter

/-- Takes the values for a destination. -/
structure Collector where
  id : Nat
  dest : String
  bounds : Bounds
  filter : ValueFilter

namespace Collector

/-- The values of the leading tokens that are taken, when `count` values are taken already. -/
def gather (c : Collector) (count : Nat) : List String → List Value
  | [] => []
  | token :: rest =>
    if !c.bounds.allowsMore count || !c.filter.accepts token then []
    else if c.filter.looksLikeFlag token && c.bounds.least ≤ count then []
    else
      match c.filter.valueOf? token with
      | none => []
      | some value => value :: c.gather (count + 1) rest

/-- What is stored for the values. A flag that takes no values still stores its constant. -/
def stored (c : Collector) (values : List Value) : List Value :=
  match c.filter.constant, c.bounds.most with
  | some constant, some 0 => [constant]
  | _, _ => values

/-- Consumes the tokens of the values, one token a value. Taking nothing touches nothing. -/
def consume (count : Nat) (st : State) : State :=
  if count = 0 then st else ((st.next? count).map (·.2)).getD st

/-- Takes the values for one occurrence; nothing on a mismatch. -/
def collect (c : Collector) : Step (Option (List Value)) := do
  let handle ← State.save (.rule c.id)
  let values := c.gather 0 (← get).tokens.remaining
  modify (consume values.length)
  if values.length < c.bounds.least then
    State.restore handle
    return none
  else
    State.dismiss handle
    return some (c.stored values)

end Collector

end TokenGrammar
