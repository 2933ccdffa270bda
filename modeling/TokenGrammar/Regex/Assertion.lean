import TokenGrammar.Text.Alphanumeric

/-!
# Conditions on places

A place in a text is the number of characters in front of it. Patterns may ask whether a place is
at an end of the text, of a line or of a word.

* `Assertion.holds`: whether a condition holds at a place.
-/

namespace TokenGrammar

/-- A condition on a place between two characters. -/
inductive Assertion where
  | textStart
  | textEnd
  | lineStart
  | lineEnd
  | wordBoundary
  | noWordBoundary
  | wordStart
  | wordEnd
deriving DecidableEq, Repr

namespace Text

/-- The characters that words consist of. -/
def wordChars : CharSet :=
  .unions [alphabetic, categorySet fun k =>
    k.isMark || k = .decimalNumber || k = .connectorPunctuation, .ofRanges "200C-200D"]

end Text

namespace Assertion

/-- Whether the condition is about words. -/
def isAboutWords : Assertion → Bool
  | .wordBoundary | .noWordBoundary | .wordStart | .wordEnd => true
  | .textStart | .textEnd | .lineStart | .lineEnd => false

/-- Whether the condition holds at a place of a text. -/
def holds (text : Array Char) (place : Nat) (a : Assertion) : Bool :=
  let before := if place = 0 then none else text[place - 1]?
  let after := text[place]?
  match a with
  | .textStart => place = 0
  | .textEnd => place = text.size
  | .lineStart => place = 0 || before = some '\n'
  | .lineEnd => place = text.size || after = some '\n'
  | _ =>
    let wordBefore := before.any Text.wordChars.contains
    let wordAfter := after.any Text.wordChars.contains
    match a with
    | .wordBoundary => wordBefore != wordAfter
    | .noWordBoundary => wordBefore == wordAfter
    | .wordStart => !wordBefore && wordAfter
    | _ => wordBefore && !wordAfter

end Assertion

end TokenGrammar
