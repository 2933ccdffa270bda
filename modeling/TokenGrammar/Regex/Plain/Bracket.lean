import TokenGrammar.Regex.Plain.Escape

/-!
# Sets in brackets

`[a-z]`, `[^,;]`, `[[:alpha:]_]`, `[a-z&&[^aeiou]]`. A set is read from left to right with a stack
of the brackets that are open. Case variants are added before a set is negated and before it is
combined with another one.

* `Plain.readBracket?`: reads a set behind its opening bracket.
-/

namespace TokenGrammar.Plain

open Text (CharSet)

/-- A set of characters, with the number of levels that its parts are nested. -/
structure LeveledSet where
  set : CharSet
  levels : Nat := 0

/-- How two sets make a third one. -/
inductive SetOperator where
  | intersection
  | difference
  | symmetricDifference
deriving DecidableEq, Repr

/-- The set that an operator makes. -/
def SetOperator.apply : SetOperator → CharSet → CharSet → CharSet
  | .intersection, a, b => a.inter b
  | .difference, a, b => a.diff b
  | .symmetricDifference, a, b => a.symmDiff b

/-- A bracket that is open. -/
structure Bracket where
  negated : Bool := false
  /-- What stands in front of the last operator. -/
  left : Option (LeveledSet × SetOperator) := none
  /-- What stands behind it, the last one first. -/
  items : List LeveledSet := []

namespace Bracket

/-- Adds an item. -/
def push (b : Bracket) (item : LeveledSet) : Bracket := { b with items := item :: b.items }

/-- What stands behind the last operator, as one set. -/
def union (b : Bracket) : LeveledSet :=
  match b.items with
  | [] => ⟨.empty, 0⟩
  | [item] => item
  | items =>
    ⟨.unions (items.map (·.set)), 1 + (items.map (·.levels)).foldl max 0⟩

/-- The set so far. -/
def joined (ignoreCase : Bool) (b : Bracket) : LeveledSet :=
  match b.left with
  | some (a, op) =>
    let right := b.union
    ⟨op.apply (withCase ignoreCase a.set) (withCase ignoreCase right.set),
      1 + max a.levels right.levels⟩
  | none => b.union

/-- Goes on behind an operator. -/
def operate (ignoreCase : Bool) (b : Bracket) (op : SetOperator) : Bracket :=
  { b with left := some (b.joined ignoreCase, op), items := [] }

/-- The set when the bracket is closed. -/
def close (ignoreCase : Bool) (b : Bracket) : LeveledSet :=
  let all := b.joined ignoreCase
  ⟨negatedIf b.negated (withCase ignoreCase all.set), all.levels + 1⟩

end Bracket

/-- The classes that are named between colons. -/
def classes : List (String × String) :=
  [("alnum", "30-39 41-5A 61-7A"), ("alpha", "41-5A 61-7A"), ("ascii", "0-7F"), ("blank", "9 20"),
    ("cntrl", "0-1F 7F"), ("digit", "30-39"), ("graph", "21-7E"), ("lower", "61-7A"),
    ("print", "20-7E"), ("punct", "21-2F 3A-40 5B-60 7B-7E"), ("space", "9-D 20"),
    ("upper", "41-5A"), ("word", "30-39 41-5A 5F 61-7A"), ("xdigit", "30-39 41-46 61-66")]

/-- Reads a class between colons, behind the opening bracket. -/
def readClass? (ignoreCase : Bool) : List Char → Option (CharSet × List Char)
  | ':' :: body =>
    let (negated, body) := match body with
      | '^' :: body => (true, body)
      | _ => (false, body)
    let name := body.takeWhile (· ≠ ':')
    match body.drop name.length with
    | ':' :: ']' :: rest =>
      (classes.lookup (.ofList name)).map fun text =>
        (negatedIf negated (withCase ignoreCase (.ofRanges text)), rest)
    | _ => none
  | _ => none

/-- Opens a bracket: a caret negates it; hyphens that follow, or else one closing bracket, stand
for themselves. -/
def openBracket (cs : List Char) : Bracket × List Char :=
  let (negated, cs) := match cs with
    | '^' :: rest => (true, rest)
    | _ => (false, cs)
  let hyphens := (cs.takeWhile (· = '-')).map fun c => (⟨.single c, 0⟩ : LeveledSet)
  match hyphens, cs with
  | [], ']' :: rest => ({ negated, items := [⟨.single ']', 0⟩] }, rest)
  | hyphens, cs => ({ negated, items := hyphens }, cs.drop hyphens.length)

/-- Reads one character or one set. -/
def readItem? (ignoreCase : Bool) : List Char → Option (CharItem × List Char)
  | [] => none
  | '\\' :: rest => readEscape? ignoreCase rest
  | c :: rest => some (.char c, rest)

/-- Reads a character, a range or a set. A hyphen in front of a closing bracket or of another
hyphen makes no range. -/
def readRange? (ignoreCase : Bool) (cs : List Char) : Option (CharSet × List Char) := do
  let (first, rest) ← readItem? ignoreCase cs
  match rest with
  | '-' :: ']' :: _ | '-' :: '-' :: _ => return (first.toSet, rest)
  | '-' :: rest =>
    let (last, rest) ← readItem? ignoreCase rest
    let (a, b) := (← first.char?, ← last.char?)
    if a ≤ b then return (.between a b, rest) else none
  | _ => return (first.toSet, rest)

/-- Reads up to the bracket that closes the outermost one; `b` is the innermost one that is open
and `outer` holds the others. -/
def readItems? (ignoreCase : Bool) (b : Bracket) (outer : List Bracket) (cs : List Char) :
    Option (LeveledSet × List Char) :=
  match cs with
  | [] => none
  | '[' :: rest =>
    match readClass? ignoreCase rest with
    | some (s, rest') =>
      let b := b.push ⟨s, 0⟩
      if rest'.length ≤ rest.length then readItems? ignoreCase b outer rest' else none
    | none =>
      let (inner, rest') := openBracket rest
      if rest'.length ≤ rest.length then readItems? ignoreCase inner (b :: outer) rest' else none
  | ']' :: rest =>
    let closed := b.close ignoreCase
    match outer with
    | [] => some (closed, rest)
    | parent :: outer => readItems? ignoreCase (parent.push closed) outer rest
  | '&' :: '&' :: rest => readItems? ignoreCase (b.operate ignoreCase .intersection) outer rest
  | '-' :: '-' :: rest => readItems? ignoreCase (b.operate ignoreCase .difference) outer rest
  | '~' :: '~' :: rest =>
    readItems? ignoreCase (b.operate ignoreCase .symmetricDifference) outer rest
  | cs =>
    match readRange? ignoreCase cs with
    | some (s, rest) =>
      if rest.length < cs.length then readItems? ignoreCase (b.push ⟨s, 0⟩) outer rest else none
    | none => none
termination_by cs.length

/-- Reads a set behind its opening bracket. -/
def readBracket? (ignoreCase : Bool) (cs : List Char) : Option (LeveledSet × List Char) :=
  let (b, rest) := openBracket cs
  readItems? ignoreCase b [] rest

end TokenGrammar.Plain
