import TokenGrammar.Decimal.Integer
import TokenGrammar.Regex.Assertion
import TokenGrammar.Regex.Plain.Escape

/-!
# Patterns

What a regular expression says, as a tree. A pattern may look around, refer to what a group has
matched, and refuse to be entered again once it has matched; its other parts are plain and are
handed on as text to the reader of plain patterns.

* `Pattern.traits`: how many characters a match takes, and whether the pattern is plain;
* `Pattern.write`: the text of a plain pattern.
-/

namespace TokenGrammar

/-- A regular expression. -/
inductive Pattern where
  | empty
  | char (c : Char) (ignoreCase : Bool)
  /-- Any character; a line feed only if `newline`. -/
  | any (newline : Bool)
  /-- A text for the reader of plain patterns, which is taken to match `width` characters. -/
  | plain (text : List Char) (width : Nat) (ignoreCase : Bool)
  | assertion (a : Assertion)
  | seq (ps : List Pattern)
  /-- The alternatives in front are preferred. -/
  | alt (ps : List Pattern)
  /-- Records where it matches. -/
  | group (index : Nat) (p : Pattern)
  /-- At least `lo` times and at most `hi` times; a greedy one prefers more. -/
  | repeated (lo : Nat) (hi : Option Nat) (greedy : Bool) (p : Pattern)
  /-- Matches where the inner pattern matches, or does not, and takes nothing. The inner pattern
  begins at the place, or ends there if it is `behind`. -/
  | look (behind negated : Bool) (p : Pattern)
  /-- Takes the first match only. -/
  | atomic (p : Pattern)
  /-- The text that a group has matched. -/
  | reference (index : Nat)
  /-- Matches nothing, and only if a group has been entered. -/
  | entered (index : Nat)
  /-- The first match of `test` and then `yes`, or `no` if there is none. -/
  | conditional (test yes no : Pattern)
  /-- Lets the match begin here. -/
  | keepOut
  /-- Where the search began. -/
  | searchStart
deriving Inhabited

namespace Pattern

/-- Patterns one after the other. -/
def ofSequence : List Pattern → Pattern
  | [] => .empty
  | [p] => p
  | ps => .seq ps

/-- Patterns of which one matches. -/
def ofAlternatives : List Pattern → Pattern
  | [] => .empty
  | [p] => p
  | ps => .alt ps

/-- Whether the pattern is nothing. -/
def isEmpty : Pattern → Bool
  | .empty => true
  | _ => false

/-- Whether the pattern may be repeated: no condition on a place may. -/
def isRepeatable : Pattern → Bool
  | .empty | .assertion _ | .look .. => false
  | _ => true

/-! ## Traits -/

/-- What can be told about a pattern before anything is matched. -/
structure Traits where
  /-- The fewest characters that a match takes. -/
  minWidth : Nat
  /-- Every match takes as many characters. -/
  isFixed : Bool
  /-- The pattern is not plain: it has to be searched step by step. -/
  isHard : Bool

namespace Traits

/-- A plain pattern of a fixed width. -/
def fixed (width : Nat) : Traits := ⟨width, true, false⟩

/-- A pattern that is not plain and takes no characters. -/
def hard : Traits := ⟨0, true, true⟩

/-- One pattern after another. -/
def append (a b : Traits) : Traits :=
  ⟨a.minWidth + b.minWidth, a.isFixed && b.isFixed, a.isHard || b.isHard⟩

/-- One of two patterns. -/
def either (a b : Traits) : Traits :=
  ⟨min a.minWidth b.minWidth, a.isFixed && b.isFixed && a.minWidth = b.minWidth,
    a.isHard || b.isHard⟩

end Traits

mutual

/-- The traits of a pattern. -/
def traits : Pattern → Traits
  | .empty => .fixed 0
  | .char .. | .any _ => .fixed 1
  | .plain _ width _ => .fixed width
  | .assertion a => { Traits.fixed 0 with isHard := a.isAboutWords }
  | .seq ps => seqTraits ps
  | .alt ps => altTraits ps
  | .group _ p => p.traits
  | .repeated lo hi _ p =>
    let t := p.traits
    ⟨t.minWidth * lo, t.isFixed && hi = some lo, t.isHard⟩
  | .look .. | .entered _ | .keepOut | .searchStart => .hard
  | .atomic p => { p.traits with isHard := true }
  | .reference _ => { Traits.hard with isFixed := false }
  | .conditional test yes no =>
    let test := test.traits
    let yes := yes.traits
    let no := no.traits
    ⟨test.minWidth + min yes.minWidth no.minWidth,
      test.isFixed && yes.isFixed && no.isFixed && test.minWidth + yes.minWidth = no.minWidth,
      true⟩

/-- The traits of patterns one after the other. -/
def seqTraits : List Pattern → Traits
  | [] => .fixed 0
  | p :: ps => p.traits.append (seqTraits ps)

/-- The traits of patterns of which one matches. -/
def altTraits : List Pattern → Traits
  | [] => .fixed 0
  | [p] => p.traits
  | p :: ps => p.traits.either (altTraits ps)

end

/-- Whether the pattern is plain. -/
def isPlain (p : Pattern) : Bool := !p.traits.isHard

/-- Whether the pattern is plain and every match takes as many characters. -/
def isFixedPlain (p : Pattern) : Bool := p.isPlain && p.traits.isFixed

mutual

/-- The text that the pattern is, if it is one as it stands. -/
def literal? : Pattern → Option (List Char)
  | .char c false => some [c]
  | .seq ps => literals? ps
  | _ => none

/-- The text that patterns one after the other are. -/
def literals? : List Pattern → Option (List Char)
  | [] => some []
  | p :: ps => do return (← p.literal?) ++ (← literals? ps)

end

mutual

/-- The indices of the groups, in the order in which they are opened. -/
def groups : Pattern → List Nat
  | .seq ps | .alt ps => groupsOf ps
  | .group index p => index :: p.groups
  | .repeated _ _ _ p | .look _ _ p | .atomic p => p.groups
  | .conditional test yes no => test.groups ++ yes.groups ++ no.groups
  | _ => []

/-- The indices of the groups of some patterns. -/
def groupsOf : List Pattern → List Nat
  | [] => []
  | p :: ps => p.groups ++ groupsOf ps

end

/-! ## Text -/

/-- A text in parentheses that record nothing, if need be. -/
def parenthesize (needed : Bool) (text : List Char) : List Char :=
  if needed then ['(', '?', ':'] ++ text ++ [')'] else text

/-- A text in parentheses in which case does not matter, if it does not. -/
def caseless (ignoreCase : Bool) (text : List Char) : List Char :=
  if ignoreCase then ['(', '?', 'i', ':'] ++ text ++ [')'] else text

/-- A character that stands for itself. -/
def quote (c : Char) : List Char := if c ∈ Plain.signs then ['\\', c] else [c]

/-- The bounds of a repetition. -/
def writeBounds (lo : Nat) (hi : Option Nat) : List Char :=
  let digits := Decimal.digitChars
  match lo, hi with
  | 0, some 1 => ['?']
  | 0, none => ['*']
  | 1, none => ['+']
  | lo, none => '\x7b' :: digits lo ++ [',', '\x7d']
  | lo, some hi =>
    if lo = hi then '\x7b' :: digits lo ++ ['\x7d']
    else '\x7b' :: digits lo ++ ',' :: digits hi ++ ['\x7d']

/-- How tightly the text around a pattern binds. -/
inductive Binding where
  | nothing
  | alternatives
  | sequence
  | repetition
deriving DecidableEq, Repr

mutual

/-- The text of a plain pattern. What is not plain has no text. -/
def write (around : Binding) : Pattern → List Char
  | .char c ignoreCase => caseless ignoreCase (quote c)
  | .any newline => if newline then "(?s:.)".toList else ['.']
  | .plain text _ ignoreCase => caseless ignoreCase text
  | .assertion .textStart => ['^']
  | .assertion .textEnd => ['$']
  | .assertion .lineStart => "(?m:^)".toList
  | .assertion .lineEnd => "(?m:$)".toList
  | .seq ps => parenthesize (around = .sequence || around = .repetition) (writeSequence ps)
  | .alt ps => parenthesize (around ≠ .nothing) (writeAlternatives ps)
  | .group _ p => '(' :: p.write .nothing ++ [')']
  | .repeated lo hi greedy p =>
    parenthesize (around = .repetition)
      (p.write .repetition ++ writeBounds lo hi ++ if greedy then [] else ['?'])
  | _ => []

/-- The text of patterns one after the other. -/
def writeSequence : List Pattern → List Char
  | [] => []
  | p :: ps => p.write .sequence ++ writeSequence ps

/-- The text of patterns of which one matches. -/
def writeAlternatives : List Pattern → List Char
  | [] => []
  | [p] => p.write .alternatives
  | p :: ps => p.write .alternatives ++ '|' :: writeAlternatives ps

end

end Pattern

end TokenGrammar
