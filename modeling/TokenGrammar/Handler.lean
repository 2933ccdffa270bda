import TokenGrammar.State

/-!
# Writing values to destinations

A handler says how values are written to an attribute. A raw format says what is recorded for the
tokens that a rule consumed.
-/

namespace TokenGrammar

/-- How a value is written to a destination. -/
inductive Handler where
  /-- Overwrite with the first item. -/
  | setFirst
  /-- Overwrite with the whole list. -/
  | set
  /-- Add the list as one item. -/
  | append
  /-- Add the items of the list. -/
  | extend
  /-- Add one item or none by itself, a longer list as one item. -/
  | appendOrExtend
  /-- Anything else. -/
  | custom (apply : State → String → Value → State)

namespace Handler

/-- Writes the value to the destination. -/
def apply : Handler → State → String → Value → State
  | .setFirst, st, dest, value => st.setFirst dest value
  | .set, st, dest, value => st.set dest value
  | .append, st, dest, value => st.append dest value
  | .extend, st, dest, value => st.extend dest value
  | .appendOrExtend, st, dest, value => st.appendOrExtend dest value
  | .custom f, st, dest, value => f st dest value

/-- The handler as it is described to a developer. -/
def describe : Handler → String
  | .setFirst => "SetFirst"
  | .set => "Set"
  | .append => "Append"
  | .extend => "Extend"
  | .appendOrExtend => "AppendOrExtend"
  | .custom _ => "Custom(..)"

end Handler

/-- What is recorded for consumed tokens. -/
structure RawFormat where
  apply : List String → Value

namespace RawFormat

/-- The tokens joined into one text: `-D value` is recorded as `-Dvalue`. -/
def concat : RawFormat := ⟨fun tokens => .str (String.join tokens)⟩

/-- What is recorded for tokens where a format is optional: without one, the list of them. -/
def record (format : Option RawFormat) (tokens : List String) : Value :=
  match format with
  | some format => format.apply tokens
  | none => .ofTexts tokens

/-- The format with a name. -/
def ofText (name : String) : Except GrammarError RawFormat :=
  if name = "concat" then .ok concat else .error (.unknownRawFormat name)

/-- The format as it is described to a developer. -/
def describe (_ : RawFormat) : String := "RawFormat(..)"

end RawFormat

end TokenGrammar
