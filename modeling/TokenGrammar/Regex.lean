import TokenGrammar.Regex.Machine
import TokenGrammar.Regex.Reader

/-!
# Regular expressions

Regular expressions with look-around, references and atomic groups. A token is accepted if a match
begins at its first character.

* `Regex.compile`: reads a regular expression, or says at which stage it is refused;
* `Regex.matchesAtStart`: whether a match begins at the first character of a text.
-/

namespace TokenGrammar

/-- A regular expression that is ready for use. -/
inductive Regex where
  | plain (a : Automaton)
  | program (p : Program)

namespace Regex

/-- Readies a pattern with some groups for search. -/
def ready? (p : Pattern) (groups : Nat) : Option Regex :=
  if p.isPlain then (Plain.compile? (p.write .nothing)).map .plain
  else (Program.compile? p groups).map .program

/-- Reads a regular expression. A refusal names the stage, not the place in the text. -/
def compile (text : String) : Except String Regex :=
  match Pattern.read? text with
  | none => .error "Parsing error"
  | some (p, groups) =>
    match ready? p groups with
    | none => .error "Error compiling regex"
    | some r => .ok r

/-- Whether a match begins at the first character of the text. -/
def matchesAtStart (r : Regex) (text : String) : Bool :=
  let cs := text.toList.toArray
  match r with
  | .plain a => (a.search? cs 0).isSome
  | .program p => p.search? cs = some 0

end Regex

end TokenGrammar
