import TokenGrammar.Declaration
import TokenGrammar.TokenParser

/-!
# Argument parsers

Arguments are declared one by one and are tried in that order at each token. Settings and defaults
apply to the arguments declared after them. The token parser is made at the first parse and is
kept until the grammar changes, so every parse gives back the argument parser that keeps it.
-/

namespace TokenGrammar

/-- Declared arguments, and the token parser of them once it is made. -/
structure ArgumentParser where
  settings : Settings := {}
  defaults : ArgumentDefaults := {}
  rules : List Rule := []
  validators : List Validator := []
  compiled : Option TokenParser := none

namespace ArgumentParser

/-- Sets the characters that start a flag. -/
def setPrefixChars (p : ArgumentParser) (prefixChars : String) : ArgumentParser :=
  { p with settings := { p.settings with prefixChars } }

/-- Sets whether flags match in any case. -/
def setIgnoreCase (p : ArgumentParser) (ignoreCase : Bool) : ArgumentParser :=
  { p with settings := { p.settings with ignoreCase } }

/-- Sets all defaults. -/
def setDefaults (p : ArgumentParser) (defaults : ArgumentDefaults) : ArgumentParser :=
  { p with defaults }

/-- Sets the destination of the arguments that do not name one. -/
def setDest (p : ArgumentParser) (dest : Dest) : ArgumentParser :=
  { p with defaults := { p.defaults with dest } }

/-- Sets the action of the arguments that do not name one. -/
def setAction (p : ArgumentParser) (action : Action) : ArgumentParser :=
  { p with defaults := { p.defaults with action := some action } }

/-- Sets the attributes that record the tokens of each argument; none stops the recording. -/
def setRawDest (p : ArgumentParser) (rawDest : List String) : ArgumentParser :=
  { p with defaults := { p.defaults with rawDest } }

/-- Sets how recorded tokens are stored. -/
def setRawFormat (p : ArgumentParser) (format : RawFormat) : ArgumentParser :=
  { p with defaults := { p.defaults with rawFormat := some format } }

/-- Declares an argument, and gives its rule. -/
def addArgument (p : ArgumentParser) (a : Argument) :
    Except GrammarError (Rule × ArgumentParser) := do
  let d ← Declaration.ofArgument (p.rules.length * Declaration.width) a p.settings p.defaults
  return (d.rule,
    { p with
      rules := p.rules ++ [d.rule]
      validators := p.validators ++ d.validators
      compiled := none })

/-- Gives an attribute a value where nothing else sets it, in the order of declarations. -/
def setDefault (p : ArgumentParser) (dest : String) (value : Value) : ArgumentParser :=
  { p with validators := p.validators ++ [.default dest value], compiled := none }

/-- The token parser, made now if there is none. -/
def compile (p : ArgumentParser) : TokenParser := p.compiled.getD ⟨p.rules, p.validators⟩

/-- The argument parser that keeps its token parser. -/
def keepCompiled (p : ArgumentParser) : ArgumentParser := { p with compiled := some p.compile }

/-- Parses all tokens; unmatched tokens and failed validators are errors. -/
def parse (p : ArgumentParser) (tokens : List String) (attributes : Option Namespace) :
    Except Error Namespace × ArgumentParser :=
  (p.compile.parseStrict tokens attributes, p.keepCompiled)

/-- Parses what the grammar knows, and gives the other tokens back, which are also added to every
attribute in `unknownDest`. -/
def parseKnown (p : ArgumentParser) (tokens : List String) (attributes : Option Namespace)
    (unknownDest : List String) : Except Error (Namespace × List String) × ArgumentParser :=
  (p.compile.parseLenient tokens attributes unknownDest, p.keepCompiled)

end ArgumentParser

end TokenGrammar
