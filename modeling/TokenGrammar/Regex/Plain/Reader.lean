import TokenGrammar.Decimal.Integer
import TokenGrammar.Regex.Plain.Bracket
import TokenGrammar.Regex.Plain.Tree

/-!
# Reading plain patterns

A plain pattern is read from left to right with a stack of the groups that are open. How deep its
parts are nested is counted on the way, and limited.

* `Plain.read?`: reads a whole text.
-/

namespace TokenGrammar.Plain

open Text (CharSet)

/-- What changes the meaning of a plain pattern. -/
structure Flags where
  ignoreCase : Bool := false
  multiLine : Bool := false
  dotAll : Bool := false
  swapGreed : Bool := false

/-- A part of a pattern, with the number of levels that its own parts are nested. -/
structure Part where
  plain : Plain
  levels : Nat := 0
  /-- Nothing, or a change of flags; it is not to be repeated. -/
  isBlank : Bool := false

namespace Part

/-- The levels of some parts, with one more if there are several. -/
def levelsOf : List Part → Nat
  | [] => 0
  | [p] => p.levels
  | ps => 1 + (ps.map (·.levels)).foldl max 0

/-- Parts one after the other. -/
def ofSequence (ps : List Part) : Part :=
  match ps with
  | [p] => p
  | ps =>
    { plain := .ofSequence (ps.map (·.plain)), levels := levelsOf ps, isBlank := ps.isEmpty }

/-- Parts of which one matches. -/
def ofAlternatives (ps : List Part) : Part :=
  match ps with
  | [p] => p
  | ps => { plain := .ofAlternatives (ps.map (·.plain)), levels := levelsOf ps }

end Part

/-- A group that is open, with its branches and the parts of the last one, the last one first. -/
structure Frame where
  /-- The group records where it matches under this number. -/
  index : Option Nat := none
  /-- The flags in front of the group. -/
  outerFlags : Flags := {}
  branches : List Part := []
  parts : List Part := []

namespace Frame

/-- What the group holds. -/
def body (f : Frame) : Part :=
  .ofAlternatives (.ofSequence f.parts.reverse :: f.branches).reverse

/-- Adds a part. -/
def push (f : Frame) (p : Part) : Frame := { f with parts := p :: f.parts }

/-- Begins another branch. -/
def nextBranch (f : Frame) : Frame :=
  { f with branches := .ofSequence f.parts.reverse :: f.branches, parts := [] }

end Frame

/-! ## Repetitions -/

/-- Reads digits with blanks around them, which must spell an integer of 32 bits. -/
def readCount? (cs : List Char) : Option (Nat × List Char) :=
  let cs := cs.dropWhile Text.isWhiteSpace
  let digits := cs.takeWhile Decimal.isDigit
  let n := Decimal.digitsValue digits
  if digits.isEmpty || UInt32.size ≤ n then none
  else some (n, (cs.drop digits.length).dropWhile Text.isWhiteSpace)

/-- Reads the bounds of a repetition behind the opening brace. -/
def readBounds? (cs : List Char) : Option (Nat × Option Nat × List Char) := do
  match ← readCount? cs with
  | (lo, '\x7d' :: rest) => return (lo, some lo, rest)
  | (lo, ',' :: '\x7d' :: rest) => return (lo, none, rest)
  | (lo, ',' :: rest) =>
    match ← readCount? rest with
    | (hi, '\x7d' :: rest) => if lo ≤ hi then return (lo, some hi, rest) else none
    | _ => none
  | _ => none

/-! ## Flags -/

/-- The flags with one of them changed. -/
def Flags.change? (f : Flags) (c : Char) (on : Bool) : Option Flags :=
  if c = 'i' then some { f with ignoreCase := on }
  else if c = 'm' then some { f with multiLine := on }
  else if c = 's' then some { f with dotAll := on }
  else if c = 'U' then some { f with swapGreed := on }
  else if c = 'u' ∧ on then some f
  else none

/-- Reads flags up to a colon or a closing parenthesis, none of them twice; `seen` are the ones in
front, the last one first. Tells whether a group follows. -/
def readFlags? (f : Flags) (seen : List Char) : List Char → Option (Flags × Bool × List Char)
  | [] => none
  | c :: rest =>
    if c = ':' then if seen.head? = some '-' then none else some (f, true, rest)
    else if c = ')' then
      if seen.isEmpty ∨ seen.head? = some '-' then none else some (f, false, rest)
    else if c ∈ seen then none
    else if c = '-' then readFlags? f (c :: seen) rest
    else
      match f.change? c ('-' ∉ seen) with
      | some f => readFlags? f (c :: seen) rest
      | none => none

/-! ## Steps -/

/-- What has been read. -/
structure Reading where
  flags : Flags := {}
  /-- The innermost group that is open; in the end the whole text. -/
  frame : Frame := {}
  /-- The groups around it, the innermost first. -/
  outer : List Frame := []
  /-- The number of groups that record where they match. -/
  groups : Nat := 0

namespace Reading

/-- Adds a part. -/
def push (r : Reading) (p : Part) : Reading := { r with frame := r.frame.push p }

/-- Adds a condition on a place. -/
def assert (r : Reading) (a : Assertion) : Reading := r.push { plain := .assertion a }

/-- Repeats the last part; a question mark behind the bounds prefers few. -/
def repeat? (r : Reading) (lo : Nat) (hi : Option Nat) (cs : List Char) :
    Option (Reading × List Char) :=
  let (greedy, rest) := match cs with
    | '?' :: rest => (r.flags.swapGreed, rest)
    | _ => (!r.flags.swapGreed, cs)
  match r.frame.parts with
  | [] => none
  | p :: parts =>
    let repeated : Part :=
      { plain := .ofRepetition lo hi greedy p.plain, levels := p.levels + 1 }
    if p.isBlank then none
    else some ({ r with frame := { r.frame with parts := repeated :: parts } }, rest)

/-- Opens a group. -/
def opened (r : Reading) (index : Option Nat) (flags : Flags) : Reading :=
  { r with
    flags
    frame := { index, outerFlags := r.flags }
    outer := r.frame :: r.outer }

/-- Opens a group that records where it matches. -/
def capture (r : Reading) : Reading :=
  { r.opened (some (r.groups + 1)) r.flags with groups := r.groups + 1 }

/-- Reads the name of a group up to its closing mark. -/
def readName? (cs : List Char) : Option (List Char) :=
  let name := cs.takeWhile fun c => Text.isAlphanumeric c || c = '_'
  match cs.drop name.length with
  | '>' :: rest => if name.isEmpty then none else some rest
  | _ => none

/-- Opens a group, or changes the flags. There is no look-around in a plain pattern. -/
def open? (r : Reading) (cs : List Char) : Option (Reading × List Char) := do
  match cs with
  | '?' :: 'P' :: '<' :: rest => return (r.capture, ← readName? rest)
  | '?' :: '<' :: rest => return (r.capture, ← readName? rest)
  | '?' :: rest =>
    let (flags, isGroup, rest) ← readFlags? r.flags [] rest
    if isGroup then return (r.opened none flags, rest)
    else return ({ r with flags }.push { plain := .empty, isBlank := true }, rest)
  | _ => return (r.capture, cs)

/-- Closes the innermost group. -/
def close? (r : Reading) : Option Reading :=
  match r.outer with
  | [] => none
  | parent :: outer =>
    let body := r.frame.body
    let plain := match r.frame.index with
      | some index => .group index body.plain
      | none => body.plain
    some { r with
      flags := r.frame.outerFlags
      frame := parent.push { plain, levels := body.levels + 1 }
      outer }

/-- Reads one part, or a sign that concerns others. -/
def step? (r : Reading) (cs : List Char) : Option (Reading × List Char) := do
  match cs with
  | [] => none
  | '(' :: rest => r.open? rest
  | ')' :: rest => return (← r.close?, rest)
  | '|' :: rest => return ({ r with frame := r.frame.nextBranch }, rest)
  | '?' :: rest => r.repeat? 0 (some 1) rest
  | '*' :: rest => r.repeat? 0 none rest
  | '+' :: rest => r.repeat? 1 none rest
  | '\x7b' :: rest =>
    let (lo, hi, rest) ← readBounds? rest
    r.repeat? lo hi rest
  | '[' :: rest =>
    let (s, rest) ← readBracket? r.flags.ignoreCase rest
    return (r.push { plain := .chars s.set, levels := s.levels }, rest)
  | '.' :: rest =>
    let s := if r.flags.dotAll then .all else (CharSet.single '\n').complement
    return (r.push { plain := .chars s }, rest)
  | '^' :: rest => return (r.assert (if r.flags.multiLine then .lineStart else .textStart), rest)
  | '$' :: rest => return (r.assert (if r.flags.multiLine then .lineEnd else .textEnd), rest)
  | '\\' :: rest =>
    let (item, rest) ← readEscape? r.flags.ignoreCase rest
    let s := match item with
      | .char c => withCase r.flags.ignoreCase (.single c)
      | .set s => s
    return (r.push { plain := .chars s }, rest)
  | c :: rest =>
    return (r.push { plain := .chars (withCase r.flags.ignoreCase (.single c)) }, rest)

/-- Reads to the end, where no group may be open. Every step takes a character, so `steps` need not
be more than the length of the text. -/
def readAll? : (steps : Nat) → Reading → List Char → Option Reading
  | _, r, [] => if r.outer.isEmpty then some r else none
  | 0, _, _ => none
  | steps + 1, r, cs => (r.step? cs).bind fun (r, rest) => readAll? steps r rest

end Reading

/-- How many levels the parts of a pattern may be nested. -/
def maxLevels : Nat := 250

/-- Reads a plain pattern. -/
def read? (cs : List Char) : Option Plain := do
  let r ← Reading.readAll? cs.length {} cs
  let p := r.frame.body
  if p.levels ≤ maxLevels then return p.plain else none

end TokenGrammar.Plain
