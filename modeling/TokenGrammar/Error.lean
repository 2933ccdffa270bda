import TokenGrammar.Owner
import TokenGrammar.Value.Text

/-!
# Errors

A rule that does not match is no error. Errors are either wrong grammars (`GrammarError`) or parses
that failed as a whole (`Error`), the end of the program by an overflow among them. Each constructor
is one cause; `message` is its wording.
-/

namespace TokenGrammar

/-- What is wrong with a grammar, independent of any input. -/
inductive GrammarError where
  /-- A named destination has a character that is neither alphanumeric nor an underscore. -/
  | invalidDest (dest : String)
  /-- The action stores a constant and none is given. -/
  | constRequired
  /-- A rule opened a savepoint while its own was still open. -/
  | duplicateSavepoint (owner : Owner)
  /-- A flag does not start with a prefix character. -/
  | invalidFlag (flag : String) (prefixChars : String)
  /-- A flag has nothing but prefix characters. -/
  | emptyFlag (flag : String)
  /-- No name, flag or prefix to infer the destination from. -/
  | unableToInferDest
  | invalidNargs (text : String)
  /-- The pattern is no regular expression, for the reason that its reader gives. -/
  | invalidRegexp (pattern : String) (reason : String)
  | unknownAction (name : String)
  | unknownType (name : String)
  | unknownRawFormat (name : String)
deriving DecidableEq, Repr

/-- Why a parse failed. -/
inductive Error where
  /-- Tokens are left that no rule matched. -/
  | unparsedTokens (tokens : List String)
  | requiredAttributeMissing (dest : String) (context : Option String)
  | notEnoughValues (dest : String) (least : Nat) (values : List Value) (context : Option String)
  | tooManyValues (dest : String) (most : Nat) (values : List Value) (context : Option String)
  /-- Savepoints were open at the end. -/
  | orphanedSavepoints (count : Nat)
  /-- A savepoint was released that was not the youngest. -/
  | savepointOrder (expected actual : Nat)
  | grammar (cause : GrammarError)
  /-- A sum of words is no word. This is no verdict on the tokens: the program ends there. -/
  | overflow
deriving DecidableEq, Repr

open Decimal (digitChars)

/-- A text between single quotes, as it is. -/
def inQuotes (s : String) : List Char := '\x27' :: s.toList ++ ['\x27']

/-- The context of a message, if there is one. -/
def contextSuffix : Option String → List Char
  | some context => ' ' :: '(' :: context.toList ++ [')']
  | none => []

/-- The wording of a wrong grammar. -/
def GrammarError.message : GrammarError → List Char
  | .invalidDest dest => "Invalid dest: ".toList ++ inQuotes dest
  | .constRequired => "const is required".toList
  | .duplicateSavepoint owner => "Savepoint already exists: ".toList ++ owner.text
  | .invalidFlag flag prefixChars =>
    "Invalid flag ".toList ++ inQuotes flag ++ ": must start with [".toList ++
      prefixChars.toList ++ [']']
  | .emptyFlag flag => "Invalid flag: ".toList ++ inQuotes flag
  | .unableToInferDest => "Unable to infer 'dest'".toList
  | .invalidNargs text => "Invalid nargs: ".toList ++ inQuotes text
  | .invalidRegexp pattern reason =>
    "Invalid regexp ".toList ++ inQuotes pattern ++ ": ".toList ++ reason.toList
  | .unknownAction name => "Unknown action: ".toList ++ inQuotes name
  | .unknownType name => "Unknown type: ".toList ++ inQuotes name
  | .unknownRawFormat name => "Unknown raw format: ".toList ++ inQuotes name

/-- The wording of a failed parse. The counts of values put the context before the attribute. -/
def Error.message : Error → List Char
  | .unparsedTokens tokens => "Unparsed tokens: ".toList ++ tokenList tokens
  | .requiredAttributeMissing dest context =>
    "Required attribute not found: ".toList ++ dest.toList ++ contextSuffix context
  | .notEnoughValues dest least values context =>
    "Not enough values (<".toList ++ digitChars least ++ ") were found for attribute ".toList ++
      contextSuffix context ++ dest.toList ++ ": ".toList ++ valueList values
  | .tooManyValues dest most values context =>
    "Too many values (>".toList ++ digitChars most ++ ") were found for attribute ".toList ++
      contextSuffix context ++ dest.toList ++ ": ".toList ++ valueList values
  | .orphanedSavepoints count => "Orphaned savepoints found: ".toList ++ digitChars count
  | .savepointOrder expected actual =>
    "Savepoint released out of order: expected depth ".toList ++ digitChars expected ++
      ", got ".toList ++ digitChars actual
  | .grammar cause => cause.message
  | .overflow => "attempt to add with overflow".toList

end TokenGrammar
