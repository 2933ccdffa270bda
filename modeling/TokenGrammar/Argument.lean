import TokenGrammar.Handler
import TokenGrammar.Collector

/-!
# Arguments

The declarative description of one argument: its names (flags, or one positional name) and its
options. It records what is asked for; `Declaration` makes rules and validators of it.
-/

namespace TokenGrammar

/-- What happens to the values of a matched argument. -/
inductive Action where
  | store
  | storeConst
  | storeTrue
  | storeFalse
  | append
  | appendConst
  /-- `/GR` stores true and `/GR-` false. -/
  | msvcFlag
  /-- `/flag:value`. -/
  | msvcFlagWithValue
deriving DecidableEq, Repr

namespace Action

/-- The name of an action. -/
def name : Action → String
  | .store => "store"
  | .storeConst => "store_const"
  | .storeTrue => "store_true"
  | .storeFalse => "store_false"
  | .append => "append"
  | .appendConst => "append_const"
  | .msvcFlag => "msvc_flag"
  | .msvcFlagWithValue => "msvc_flag_with_value"

/-- All actions. -/
def all : List Action :=
  [.store, .storeConst, .storeTrue, .storeFalse, .append, .appendConst, .msvcFlag,
    .msvcFlagWithValue]

/-- The action with a name. -/
def ofText (text : String) : Except GrammarError Action :=
  match all.find? (·.name = text) with
  | some action => .ok action
  | none => .error (.unknownAction text)

end Action

/-- Where the values of an argument go. -/
inductive Dest where
  /-- Derived from the flags or the positional name, unless the parser sets a default. -/
  | infer
  | named (name : String)
  /-- Matched and validated, but not part of the result. -/
  | anonymous
deriving DecidableEq, Repr

/-- Settings that apply to the arguments declared after they are made. -/
structure Settings where
  /-- The characters that start a flag. -/
  prefixChars : String := "-"
  ignoreCase : Bool := false
deriving DecidableEq, Repr

/-- Options for the arguments that leave them unset. The destination is for the arguments that
infer theirs. -/
structure ArgumentDefaults where
  dest : Dest := .infer
  action : Option Action := none
  rawDest : List String := []
  rawFormat : Option RawFormat := none

/-- One argument. -/
structure Argument where
  /-- Flags (`-I`, `--output`), or one positional name (`files`). -/
  names : List String := []
  /-- Tokens that select the argument as they are, whatever they start with. -/
  flags : List String := []
  /-- Prefixes whose remainder is the value, as in `-Ivalue`. -/
  prefixes : List String := []
  dest : Dest := .infer
  action : Option Action := none
  nargs : Option Nargs := none
  constant : Option Value := none
  default : Option Value := none
  choices : List String := []
  valueType : Option ValueType := none
  /-- Values must match this pattern at their start. -/
  regexp : Option String := none
  required : Option Bool := none
  /-- Add to the values of earlier occurrences. -/
  append : Bool := false
  ignoreCase : Option Bool := none
  prefixChars : Option String := none
  /-- Whether a value may be fused to any flag (`-Xclangvalue`), or to none. Unset, values are fused
  to short flags, and to long ones behind `=`. -/
  suffixValue : Option Bool := none
  msvcTrueSuffix : Option String := none
  msvcFalseSuffix : Option String := none
  handler : Option Handler := none
  /-- The attributes that record the consumed tokens. Unset, they are the default ones. -/
  rawDest : Option (List String) := none
  rawFormat : Option RawFormat := none
  rawHandler : Option Handler := none

namespace Argument

/-- The argument with its unset options filled in. -/
def inherit (a : Argument) (defaults : ArgumentDefaults) : Argument :=
  { a with
    dest := if a.dest = .infer then defaults.dest else a.dest
    action := a.action <|> defaults.action
    rawDest :=
      a.rawDest <|> if defaults.rawDest.isEmpty then none else some defaults.rawDest
    rawFormat := a.rawFormat <|> defaults.rawFormat }

end Argument

end TokenGrammar
