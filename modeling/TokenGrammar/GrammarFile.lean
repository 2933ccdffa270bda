import TokenGrammar.ArgumentParser
import TokenGrammar.Document
import TokenGrammar.Json.Reader
import TokenGrammar.Yaml.Tree

/-!
# Grammar files

A file declares settings, defaults and arguments. Settings also carry the defaults of arguments;
the defaults of attributes are registered before the arguments. Nothing that is not known may stand
in a file.

* `GrammarFile.ofDocument?`: the grammar that a file spells out;
* `GrammarFile.toParser`: its argument parser.
-/

namespace TokenGrammar

/-- The settings in a file; what is missing is left as it is. -/
structure FileSettings where
  prefixChars : Option String := none
  ignoreCase : Option Bool := none
  dest : Option String := none
  anonymous : Bool := false
  action : Option Action := none
  rawDest : Option (List String) := none
  rawFormat : Option RawFormat := none

/-- What a grammar file declares. -/
structure GrammarFile where
  settings : FileSettings := {}
  defaults : Namespace := .empty
  arguments : List Argument := []

/-- Why a grammar file is no grammar. -/
inductive LoadError where
  /-- The file cannot be read. -/
  | unreadable (path reason : String)
  | invalidYaml
  | invalidJson
  /-- An argument cannot be declared. -/
  | argument (index : Nat) (names : String) (cause : GrammarError)
deriving DecidableEq, Repr

/-- The wording of a failure to load. -/
def LoadError.message : LoadError → List Char
  | .unreadable path reason =>
    "Failed to read grammar file ".toList ++ path.toList ++ ": ".toList ++ reason.toList
  | .invalidYaml => "Invalid YAML grammar".toList
  | .invalidJson => "Invalid JSON grammar".toList
  | .argument index names cause =>
    "Argument #".toList ++ Decimal.digitChars index ++ " (".toList ++ names.toList ++
      "): ".toList ++ cause.message

open Document (text? flag? choice? texts? value? nargs? namespace? list? field? option?)

/-- What a name stands for; `read` finds the name. -/
def Document.named? (read : Document → Option String) (ofText : String → Except GrammarError α)
    (d : Document) : Option α :=
  (read d).bind fun name => (ofText name).toOption

/-- The attributes that record consumed tokens: where they are given, null for none of them. -/
def Document.captured? (d : Document) : Option (Option (List String)) := d.oneOrMany?.map some

open Document (named? captured?)

namespace FileSettings

/-- The names of the fields. -/
def fieldNames : List String :=
  ["prefix_chars", "ignore_case", "dest", "anonymous", "action", "raw_dest", "raw_format"]

/-- The settings that a document spells out. -/
def ofDocument? (d : Document) : Option FileSettings := do
  let fields ← d.record? fieldNames true
  return {
    prefixChars := ← option? fields "prefix_chars" text?
    ignoreCase := ← option? fields "ignore_case" flag?
    dest := ← option? fields "dest" text?
    anonymous := ← field? fields "anonymous" flag? false
    action := ← option? fields "action" (named? choice? Action.ofText)
    rawDest := ← field? fields "raw_dest" captured? none
    rawFormat := ← option? fields "raw_format" (named? text? RawFormat.ofText) }

/-- The defaults of arguments. -/
def argumentDefaults (s : FileSettings) : ArgumentDefaults where
  dest := if s.anonymous then .anonymous else (s.dest.map Dest.named).getD .infer
  action := s.action
  rawDest := s.rawDest.getD []
  rawFormat := s.rawFormat

/-- The settings over those of the caller. -/
def onto (s : FileSettings) (base : Settings) : Settings where
  prefixChars := s.prefixChars.getD base.prefixChars
  ignoreCase := s.ignoreCase.getD base.ignoreCase

end FileSettings

namespace Argument

/-- The names of the fields. -/
def fieldNames : List String :=
  ["names", "flags", "prefixes", "dest", "anonymous", "action", "nargs", "const", "default",
    "choices", "type", "regexp", "required", "append", "ignore_case", "prefix_chars",
    "suffix_value", "msvc_true_suffix", "msvc_false_suffix", "raw_dest", "raw_format"]

/-- The argument that a document spells out. -/
def ofDocument? (d : Document) : Option Argument := do
  let fields ← d.record? fieldNames false
  let dest ← option? fields "dest" text?
  let anonymous ← field? fields "anonymous" flag? false
  return {
    names := ← field? fields "names" texts? []
    flags := ← field? fields "flags" texts? []
    prefixes := ← field? fields "prefixes" texts? []
    dest := if anonymous then .anonymous else (dest.map Dest.named).getD .infer
    action := ← option? fields "action" (named? choice? Action.ofText)
    nargs := ← option? fields "nargs" nargs?
    constant := ← option? fields "const" value?
    default := ← option? fields "default" value?
    choices := ← field? fields "choices" texts? []
    valueType := ← option? fields "type" (named? text? ValueType.ofText)
    regexp := ← option? fields "regexp" text?
    required := ← option? fields "required" flag?
    append := ← field? fields "append" flag? false
    ignoreCase := ← option? fields "ignore_case" flag?
    prefixChars := ← option? fields "prefix_chars" text?
    suffixValue := ← option? fields "suffix_value" flag?
    msvcTrueSuffix := ← option? fields "msvc_true_suffix" text?
    msvcFalseSuffix := ← option? fields "msvc_false_suffix" text?
    rawDest := ← field? fields "raw_dest" captured? none
    rawFormat := ← option? fields "raw_format" (named? text? RawFormat.ofText) }

/-- What a message about the argument calls it. -/
def label (a : Argument) : String := ", ".intercalate (a.names ++ a.flags ++ a.prefixes)

end Argument

namespace GrammarFile

/-- The names of the fields. -/
def fieldNames : List String := ["settings", "defaults", "arguments"]

/-- The grammar that a document spells out. -/
def ofDocument? (d : Document) : Option GrammarFile := do
  let fields ← d.record? fieldNames false
  return {
    settings := ← field? fields "settings" FileSettings.ofDocument? {}
    defaults := ← field? fields "defaults" namespace? .empty
    arguments := ← field? fields "arguments" (list? Argument.ofDocument?) [] }

/-- The grammar of a JSON text. -/
def ofJsonText (text : String) : Except LoadError GrammarFile :=
  match (Json.ofText? text).bind fun json => ofDocument? (.ofJson json) with
  | some g => .ok g
  | none => .error .invalidJson

/-- The grammar of a YAML text. -/
def ofYamlText (text : String) : Except LoadError GrammarFile :=
  match (Document.ofYaml? text).bind ofDocument? with
  | some g => .ok g
  | none => .error .invalidYaml

/-- Declares arguments in order; `index` counts them. -/
def declare (index : Nat) (p : ArgumentParser) : List Argument → Except LoadError ArgumentParser
  | [] => .ok p
  | a :: rest =>
    match p.addArgument a with
    | .ok (_, p) => declare (index + 1) p rest
    | .error cause => .error (.argument index a.label cause)

/-- The argument parser of a grammar. Its settings win over those of the caller. -/
def toParser (g : GrammarFile) (base : Settings) : Except LoadError ArgumentParser :=
  let p : ArgumentParser :=
    { settings := g.settings.onto base, defaults := g.settings.argumentDefaults }
  declare 0 (g.defaults.entries.foldl (fun p (dest, value) => p.setDefault dest value) p)
    g.arguments

end GrammarFile

end TokenGrammar
