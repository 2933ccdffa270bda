import TokenGrammar.Configuration
import TokenGrammar.GrammarFile
import TokenGrammar.Json.Writer
import TokenGrammar.Value.Json

/-!
# The command line

The program reads a grammar file, parses the tokens behind `--` by it, and prints the attributes as
JSON. Settings of a configuration file, and those of the command line, lie over what is built in.

* `Invocation.ofArguments?`: what the program is asked for;
* `Invocation.run`: what it prints, or why it fails.
-/

namespace TokenGrammar

/-- What the program is asked for. -/
structure Invocation where
  grammar : String
  config : Option String := none
  prefixChars : Option String := none
  ignoreCase : Bool := false
  lenient : Bool := false
  unknownDest : List String := []
  tokens : List String := []
deriving DecidableEq, Repr

/-! ## Options -/

/-- The options of the program. -/
inductive CommandOption where
  | grammar
  | config
  | prefixChars
  | ignoreCase
  | lenient
  | unknownDest
deriving DecidableEq, Repr

namespace CommandOption

/-- The name of an option behind two hyphens. -/
def name : CommandOption → String
  | .grammar => "grammar"
  | .config => "config"
  | .prefixChars => "prefix-chars"
  | .ignoreCase => "ignore-case"
  | .lenient => "lenient"
  | .unknownDest => "unknown-dest"

/-- All options. -/
def all : List CommandOption :=
  [.grammar, .config, .prefixChars, .ignoreCase, .lenient, .unknownDest]

/-- The option that a letter behind one hyphen stands for. -/
def ofLetter? (c : Char) : Option CommandOption :=
  if c = 'g' then some .grammar else if c = 'c' then some .config else none

/-- Whether the option has a value. -/
def hasValue : CommandOption → Bool
  | .ignoreCase | .lenient => false
  | _ => true

/-- Whether the option may be given several times. -/
def isRepeatable : CommandOption → Bool
  | .unknownDest => true
  | _ => false

/-- Whether its value, behind it, may look like an option. -/
def takesHyphens : CommandOption → Bool
  | .prefixChars => true
  | _ => false

/-- The option that an argument names, with the value that is attached to it. -/
def ofArgument? (argument : String) : Option (CommandOption × Option String) :=
  match argument.toList with
  | '-' :: '-' :: body =>
    let name := body.takeWhile (· ≠ '=')
    let value := match body.drop name.length with
      | _ :: value => some (.ofList value)
      | [] => none
    (all.find? (·.name = .ofList name)).map (·, value)
  | '-' :: letter :: value =>
    (ofLetter? letter).map fun o =>
      match value with
      | [] => (o, none)
      | '=' :: value => (o, some (.ofList value))
      | value => (o, some (.ofList value))
  | _ => none

end CommandOption

/-- Whether the argument looks like an option; a hyphen alone does not. -/
def looksLikeOption (argument : String) : Bool :=
  argument.toList.head? = some '-' && argument ≠ "-"

/-- Pairs the options with their values, up to the tokens. An argument that is neither an option
nor the value of one is refused. -/
def readOptions? : List String → Option (List (CommandOption × String) × List String)
  | [] => some ([], [])
  | argument :: rest =>
    if argument = "--" then some ([], rest)
    else
      match CommandOption.ofArgument? argument with
      | none => none
      | some (o, some value) =>
        if o.hasValue then (readOptions? rest).map fun (os, tokens) => ((o, value) :: os, tokens)
        else none
      | some (o, none) =>
        if o.hasValue then
          match rest with
          | [] => none
          | value :: rest =>
            if looksLikeOption value && !o.takesHyphens then none
            else (readOptions? rest).map fun (os, tokens) => ((o, value) :: os, tokens)
        else (readOptions? rest).map fun (os, tokens) => ((o, "") :: os, tokens)

/-- The values of an option. -/
def valuesOf (o : CommandOption) (options : List (CommandOption × String)) : List String :=
  (options.filter (·.1 = o)).map (·.2)

namespace Invocation

/-- What the arguments ask for. A grammar is needed, and only some options may come twice. -/
def ofArguments? (arguments : List String) : Option Invocation :=
  match readOptions? arguments with
  | none => none
  | some (options, tokens) =>
    let given := fun o => valuesOf o options
    if CommandOption.all.any fun o => 1 < (given o).length && !o.isRepeatable then none
    else
      (given .grammar).head?.map fun grammar =>
        { grammar
          config := (given .config).head?
          prefixChars := (given .prefixChars).head?
          ignoreCase := !(given .ignoreCase).isEmpty
          lenient := !(given .lenient).isEmpty
          unknownDest := given .unknownDest
          tokens }

/-- The places of a configuration file: the path, and the same with an extension. -/
def configPaths (path : String) : List String := [path, path ++ ".toml"]

/-- The files that the program may read. -/
def paths (i : Invocation) : List String :=
  (i.config.map configPaths).getD [] ++ [i.grammar]

end Invocation

/-! ## Running -/

/-- Why the program fails. -/
inductive CommandError where
  /-- There is no configuration file. -/
  | missingConfiguration (path : String)
  | invalidConfiguration
  | load (cause : LoadError)
  | parse (cause : Error)
deriving DecidableEq, Repr

/-- The wording of a failure. -/
def CommandError.message : CommandError → List Char
  | .missingConfiguration path =>
    "configuration file ".toList ++ '\x22' :: path.toList ++ "\x22 not found".toList
  | .invalidConfiguration => "Invalid configuration".toList
  | .load cause => cause.message
  | .parse cause => cause.message

/-- The extension of the file at a path: what is behind the last point of its name, unless the name
begins with that point. -/
def extension? (path : String) : Option String :=
  let name := path.toList.reverse.takeWhile (· ≠ '/')
  let ext := name.takeWhile (· ≠ '.')
  if ext.length + 1 < name.length ∧ name ≠ ['.', '.'] then some (.ofList ext.reverse) else none

/-- Reads a grammar from a file: JSON by the extension, and YAML otherwise. -/
def GrammarFile.ofPath (read : String → Except String String) (path : String) :
    Except LoadError GrammarFile :=
  match read path with
  | .error reason => .error (.unreadable path reason)
  | .ok text => if extension? path = some "json" then ofJsonText text else ofYamlText text

namespace Invocation

/-- The settings: those of the command line over those of a file over what is built in. -/
def settings (i : Invocation) (read : String → Except String String) :
    Except CommandError Settings := do
  let c ← match i.config with
    | none => pure Configuration.builtIn
    | some path =>
      match (configPaths path).findSome? fun path => (read path).toOption with
      | none => throw (.missingConfiguration path)
      | some text =>
        match Configuration.builtIn.addText? text with
        | some c => pure c
        | none => throw .invalidConfiguration
  let c := match i.prefixChars with
    | some chars => (c.addValue? "parser.prefix_chars" (.text chars)).getD c
    | none => c
  let c := if i.ignoreCase then (c.addValue? "parser.ignore_case" (.flag true)).getD c else c
  match c.toSettings? with
  | some s => return s
  | none => throw .invalidConfiguration

/-- The attributes and the tokens that no argument takes. -/
def parse (i : Invocation) (read : String → Except String String) :
    Except CommandError (Namespace × List String) := do
  let settings ← i.settings read
  let parser ←
    (GrammarFile.ofPath read i.grammar >>= (·.toParser settings)).mapError .load
  if i.lenient then (parser.parseKnown i.tokens none i.unknownDest).1.mapError .parse
  else ((parser.parse i.tokens none).1.map (·, [])).mapError .parse

/-- What the program prints: the attributes and the tokens that no argument takes. -/
def report (attributes : Namespace) (unparsed : List String) : Json :=
  .object [("namespace", attributes.toJson), ("unparsed", .array (unparsed.map .string))]

/-- What the program prints, or why it fails; `read` gives the text of a file. -/
def run (i : Invocation) (read : String → Except String String) : Except CommandError String :=
  (i.parse read).map fun (attributes, unparsed) =>
    .ofList ((report attributes unparsed).pretty ++ ['\n'])

end Invocation

end TokenGrammar
