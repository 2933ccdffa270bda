import TokenGrammar.Regex.Assertion
import TokenGrammar.Regex.Property
import TokenGrammar.Text.CaseFold
import TokenGrammar.Text.WhiteSpace

/-!
# Characters and sets in plain patterns

What a backslash and the characters behind it stand for in a plain pattern: a sign that has a
meaning of its own elsewhere, or a set of characters.

* `Plain.readEscape?`: reads what follows a backslash.
-/

namespace TokenGrammar.Plain

open Text (CharSet)

/-- The signs that have a meaning of their own in a plain pattern. -/
def signs : List Char :=
  ['\\', '.', '+', '*', '?', '(', ')', '|', '[', ']', '\x7b', '\x7d', '^', '$', '#']

/-- What stands in a pattern for one of some characters. -/
inductive CharItem where
  | char (c : Char)
  | set (s : CharSet)

namespace CharItem

/-- The characters that an item stands for, before case is considered. -/
def toSet : CharItem → CharSet
  | .char c => .single c
  | .set s => s

/-- The character that an item stands for. -/
def char? : CharItem → Option Char
  | .char c => some c
  | .set _ => none

end CharItem

/-- The set with its case variants, if case does not matter. -/
def withCase (ignoreCase : Bool) (s : CharSet) : CharSet := if ignoreCase then s.caseClosed else s

/-- The set or the characters that it does not hold. -/
def negatedIf (negated : Bool) (s : CharSet) : CharSet := if negated then s.complement else s

/-- The set that a letter stands for: digits, white space and the characters of words. -/
def setOf? (c : Char) : Option CharSet :=
  if c = 'd' then some (Text.categorySet (· = .decimalNumber))
  else if c = 's' then some Text.whiteSpace
  else if c = 'w' then some Text.wordChars
  else none

/-- Reads the name of a property: one character, or several in braces. -/
def readPropertyName? : List Char → Option (List Char × List Char)
  | [] => none
  | '\x7b' :: body =>
    match body.dropWhile (· ≠ '\x7d') with
    | _ :: rest => some (body.takeWhile (· ≠ '\x7d'), rest)
    | [] => none
  | c :: rest => some ([c], rest)

/-- Reads what follows a backslash. -/
def readEscape? (ignoreCase : Bool) : List Char → Option (CharItem × List Char)
  | [] => none
  | c :: rest =>
    if c = 'p' ∨ c = 'P' then do
      let (name, rest) ← readPropertyName? rest
      let (s, negated) ← Property.ofName? name
      return (.set (negatedIf (negated != (c = 'P')) (withCase ignoreCase s)), rest)
    else
      match setOf? c.toLower with
      | some s => some (.set (negatedIf c.isUpper s), rest)
      | none => if c ∈ signs then some (.char c, rest) else none

end TokenGrammar.Plain
