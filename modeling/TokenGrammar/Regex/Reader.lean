import TokenGrammar.Decimal.Integer
import TokenGrammar.Regex.Escape

/-!
# Reading regular expressions

A regular expression is read from left to right with a stack of the groups that are open. Each
step takes an atom with the sign of repetition behind it, or opens or closes a group.

* `Pattern.Reading.step?`: one step;
* `Pattern.read?`: reads a whole text.
-/

namespace TokenGrammar.Pattern

/-- What changes the meaning of a regular expression as a whole. -/
structure Flags where
  ignoreCase : Bool := false
  multiLine : Bool := false
  dotAll : Bool := false
  swapGreed : Bool := false
  /-- Blanks and comments may stand between atoms. -/
  extended : Bool := false
deriving DecidableEq, Repr

/-- Why a group is open. -/
inductive Opening where
  | capture (index : Nat)
  /-- A group for its own sake; behind it the flags are as they were. -/
  | plain (outer : Flags)
  | atomic
  | look (behind negated : Bool)
  /-- The test of a conditional. -/
  | test
  /-- The branches of a conditional; `start` is the length of the text from them on. -/
  | branches (test : Pattern) (start : Nat)

/-- A group that is open, with its branches and the pieces of the last one, the last one first. -/
structure Frame where
  opening : Opening
  branches : List Pattern := []
  pieces : List Pattern := []

namespace Frame

/-- What the group holds. -/
def body (f : Frame) : Pattern :=
  .ofAlternatives (.ofSequence f.pieces.reverse :: f.branches).reverse

/-- Adds a piece. -/
def push (f : Frame) (p : Pattern) : Frame :=
  if p.isEmpty then f else { f with pieces := p :: f.pieces }

/-- Begins another branch. -/
def nextBranch (f : Frame) : Frame :=
  { f with branches := .ofSequence f.pieces.reverse :: f.branches, pieces := [] }

end Frame

/-! ## Blanks and repetitions -/

/-- Where the reader is between two atoms. -/
inductive Gap where
  | blank
  /-- A comment up to the end of the line. -/
  | line
  /-- A comment in parentheses. -/
  | comment

/-- Passes over comments and, if `extended`, blanks. -/
def skip? (extended : Bool) : Gap → List Char → Option (List Char)
  | .blank, '(' :: '?' :: '#' :: rest => skip? extended .comment rest
  | .blank, c :: rest =>
    if extended && c = '#' then skip? extended .line rest
    else if extended && (c = ' ' || c = '\t' || c = '\n' || c = '\r') then
      skip? extended .blank rest
    else some (c :: rest)
  | .line, c :: rest => skip? extended (if c = '\n' then .blank else .line) rest
  | .comment, '\\' :: _ :: rest => skip? extended .comment rest
  | .comment, c :: rest => skip? extended (if c = ')' then .blank else .comment) rest
  | .comment, [] => none
  | _, [] => some []

/-- Reads digits, which must spell an integer of 64 bits. -/
def readNumber? (cs : List Char) : Option (Nat × List Char) :=
  let digits := cs.takeWhile Decimal.isDigit
  let n := Decimal.digitsValue digits
  if digits.isEmpty || UInt64.size ≤ n then none else some (n, cs.drop digits.length)

/-- The bound that stands for none: the largest integer of 64 bits. -/
def bound? (n : Nat) : Option Nat := if n + 1 = UInt64.size then none else some n

/-- Reads the bounds of a repetition behind the opening brace. -/
def readBounds? (extended : Bool) (cs : List Char) : Option (Nat × Option Nat × List Char) := do
  let cs ← skip? extended .blank cs
  let (lo, cs) ← match cs with
    | ',' :: _ => some (0, cs)
    | _ => readNumber? cs
  let cs ← skip? extended .blank cs
  let (hi, cs) ← match cs with
    | ',' :: rest =>
      (skip? extended .blank rest).map fun cs =>
        match readNumber? cs with
        | some (hi, cs) => (bound? hi, cs)
        | none => (none, cs)
    | _ => some (bound? lo, cs)
  match ← skip? extended .blank cs with
  | '\x7d' :: rest => return (lo, hi, rest)
  | _ => none

/-- Repeats a piece by the signs behind the bounds: a question mark for few, a plus for all or
none. -/
def repeat? (flags : Flags) (p : Pattern) (lo : Nat) (hi : Option Nat) (cs : List Char) :
    Option (Pattern × List Char) := do
  let cs ← skip? flags.extended .blank cs
  let (lazy, cs) := match cs with
    | '?' :: rest => (true, rest)
    | _ => (false, cs)
  let piece := Pattern.repeated lo hi (lazy == flags.swapGreed) p
  if !p.isRepeatable then none
  else
    match cs with
    | '+' :: rest => return (.atomic piece, rest)
    | _ => return (piece, cs)

/-- Reads the repetition of a piece, if there is one. -/
def readRepetition? (flags : Flags) (p : Pattern) (cs : List Char) :
    Option (Pattern × List Char) := do
  let cs ← skip? flags.extended .blank cs
  match cs with
  | '?' :: rest => repeat? flags p 0 (some 1) rest
  | '*' :: rest => repeat? flags p 0 none rest
  | '+' :: rest => repeat? flags p 1 none rest
  | '\x7b' :: body =>
    match readBounds? flags.extended body with
    | some (lo, hi, rest) => repeat? flags p lo hi rest
    | none => return (p, cs)
  | _ => return (p, cs)

/-! ## Flags and names -/

/-- The flags with one of them changed. -/
def Flags.change? (f : Flags) (c : Char) (on : Bool) : Option Flags :=
  if c = 'i' then some { f with ignoreCase := on }
  else if c = 'm' then some { f with multiLine := on }
  else if c = 's' then some { f with dotAll := on }
  else if c = 'U' then some { f with swapGreed := on }
  else if c = 'x' then some { f with extended := on }
  else if c = 'u' ∧ on then some f
  else none

/-- Reads flags up to a colon or a closing parenthesis; `start` is the length of the text from the
question mark on, and `on` says that no hyphen has been read. A closing parenthesis stands neither
next to the question mark nor behind a hyphen that does, and a colon not behind such a hyphen. Tells
whether a group follows. -/
def readFlags? (f : Flags) (on : Bool) (start : Nat) (cs : List Char) :
    Option (Flags × Bool × List Char) :=
  match skip? f.extended .blank cs with
  | none | some [] => none
  | some (c :: rest) =>
    let offset := start - (rest.length + 1)
    if c = ')' then
      if offset = 0 ∨ (!on ∧ offset = 1) then none else some (f, false, rest)
    else if c = ':' then if !on ∧ offset = 1 then none else some (f, true, rest)
    else
      let changed :=
        if c = '-' then if on then some (f, false) else none else (f.change? c on).map (·, on)
      match changed with
      | some (f, on) => if rest.length < cs.length then readFlags? f on start rest else none
      | none => none
termination_by cs.length

/-- Whether the character may stand in the name of a group. -/
def isNameChar (c : Char) : Bool := Text.isAlphanumeric c || c = '_'

/-- Reads a name up to a closing mark. -/
def readName? (mark : Char) (cs : List Char) : Option (List Char × List Char) :=
  let name := cs.takeWhile isNameChar
  match cs.drop name.length with
  | c :: rest => if c = mark ∧ !name.isEmpty then some (name, rest) else none
  | [] => none

/-! ## Steps -/

/-- What has been read. -/
structure Reading where
  flags : Flags := {}
  /-- The innermost group that is open; in the end the whole text. -/
  frame : Frame := { opening := .plain {} }
  /-- The groups around it, the innermost first. -/
  outer : List Frame := []
  /-- The number of groups that record where they match. -/
  groups : Nat := 0
  /-- The names of groups, the last one first. -/
  names : List (String × Nat) := []
  /-- Whether something refers to a group by number. -/
  numbered : Bool := false

namespace Reading

/-- Opens a group. -/
def opened (r : Reading) (opening : Opening) : Reading :=
  { r with frame := { opening }, outer := r.frame :: r.outer }

/-- Opens a group that records where it matches. -/
def capture (r : Reading) (name : Option String) : Reading :=
  let index := r.groups + 1
  let r := r.opened (.capture index)
  { r with groups := index, names := (name.map (·, index)).toList ++ r.names }

/-- A reference is to a group that has been opened before. -/
def refer? (r : Reading) (index : Nat) : Option Nat := if index ≤ r.groups then some index else none

/-- Reads a reference by number, which must be less than half the length of the whole text. -/
def readNumbered? (r : Reading) (bytes : Nat) (cs : List Char) :
    Option (Reading × Nat × List Char) := do
  let (n, rest) ← readNumber? cs
  let index ← r.refer? n
  if index < bytes / 2 then return ({ r with numbered := true }, index, rest) else none

/-- The group that is counted backwards from the next one; zero is the whole match. -/
def counted? (r : Reading) (n : Nat) : Option Nat :=
  if n = 0 then some 0 else if n ≤ r.groups + 1 then r.refer? (r.groups + 1 - n) else none

/-- Reads a reference by name or by number and, if `backwards`, behind a hyphen by a number counted
backwards. -/
def readNamed? (r : Reading) (mark : Char) (backwards : Bool) (cs : List Char) :
    Option (Nat × List Char) := do
  let (isCounted, cs) := match cs with
    | '-' :: rest => if backwards then (true, rest) else (false, cs)
    | _ => (false, cs)
  let (name, rest) ← readName? mark cs
  let number? := if name.all Decimal.isDigit then (readNumber? name).map (·.1) else none
  if isCounted then return (← r.counted? (← number?), rest)
  else return (← r.refer? (← r.names.lookup (.ofList name) <|> number?), rest)

/-- Adds a piece, repeated as the text behind it says. -/
def add? (r : Reading) (p : Pattern) (cs : List Char) : Option (Reading × List Char) := do
  let (p, rest) ← readRepetition? r.flags p cs
  return ({ r with frame := r.frame.push p }, rest)

/-- Reads the closing parenthesis of the test of a conditional that asks for a group. -/
def readTest? (r : Reading) (index : Nat) (cs : List Char) : Option (Reading × List Char) := do
  match ← skip? r.flags.extended .blank cs with
  | ')' :: rest => return (r.opened (.branches (.reference index) rest.length), rest)
  | _ => none

/-- Reads the test of a conditional. -/
def conditional? (r : Reading) (bytes : Nat) (cs : List Char) :
    Option (Reading × List Char) := do
  match cs with
  | [] => none
  | '<' :: rest =>
    let (index, rest) ← r.readNamed? '>' true rest
    r.readTest? index rest
  | '\x27' :: rest =>
    let (index, rest) ← r.readNamed? '\x27' true rest
    r.readTest? index rest
  | c :: _ =>
    if Decimal.isDigit c then
      let (r, index, rest) ← r.readNumbered? bytes cs
      r.readTest? index rest
    else return (r.opened .test, cs)

/-- The number of groups that may be open in each other. -/
def maxDepth : Nat := 63

/-- Opens a group; what is no group at all is read up to its end. -/
def open? (r : Reading) (bytes : Nat) (cs : List Char) : Option (Reading × List Char) := do
  let cs ← skip? r.flags.extended .blank cs
  if maxDepth ≤ r.outer.length then none
  else
    match cs with
    | '?' :: '=' :: rest => return (r.opened (.look false false), rest)
    | '?' :: '!' :: rest => return (r.opened (.look false true), rest)
    | '?' :: '<' :: '=' :: rest => return (r.opened (.look true false), rest)
    | '?' :: '<' :: '!' :: rest => return (r.opened (.look true true), rest)
    | '?' :: '>' :: rest => return (r.opened .atomic, rest)
    | '?' :: '(' :: rest => r.conditional? bytes rest
    | '?' :: '<' :: rest | '?' :: 'P' :: '<' :: rest =>
      let (name, rest) ← readName? '>' rest
      return (r.capture (some (.ofList name)), rest)
    | '?' :: 'P' :: '=' :: rest =>
      let (index, rest) ← r.readNamed? ')' false rest
      r.add? (.reference index) rest
    | '?' :: rest =>
      let (flags, isGroup, rest) ← readFlags? r.flags true rest.length rest
      if isGroup then return ({ r.opened (.plain r.flags) with flags }, rest)
      else add? { r with flags } .empty rest
    | _ => return (r.capture none, cs)

/-- Whether references by number and by name are mixed where there is no choice. -/
def isMixed (r : Reading) : Bool :=
  r.numbered && !r.names.isEmpty && r.frame.branches.isEmpty

/-- Makes the outer group the innermost one. -/
def closed? (r : Reading) : Option Reading :=
  match r.outer with
  | frame :: outer => some { r with frame, outer }
  | [] => none

/-- A conditional; a reference as its test asks whether the group has been entered. Where nothing
at all follows the test it must be a reference, and where both branches are nothing the test is all
there is. -/
def conditionalOf? (test body : Pattern) (isBare : Bool) : Option Pattern :=
  let (yes, no) := match body with
    | .alt (yes :: no) => (yes, ofAlternatives no)
    | yes => (yes, .empty)
  let (test, isReference) := match test with
    | .reference index => (.entered index, true)
    | test => (test, false)
  if isBare && !isReference then none
  else if yes.isEmpty && no.isEmpty then some test
  else some (.conditional test yes no)

/-- Closes the innermost group. -/
def close? (r : Reading) (cs rest : List Char) : Option (Reading × List Char) := do
  let body := r.frame.body
  let r' ← if r.isMixed then none else r.closed?
  match r.frame.opening with
  | .capture index => r'.add? (.group index body) rest
  | .plain outer => add? { r' with flags := outer } body rest
  | .atomic => r'.add? (.atomic body) rest
  | .look behind negated => r'.add? (.look behind negated body) rest
  | .test => return (r'.opened (.branches body rest.length), rest)
  | .branches test start => r'.add? (← conditionalOf? test body (cs.length = start)) rest

/-- Reads what follows a backslash. -/
def escape? (r : Reading) (bytes : Nat) (cs : List Char) : Option (Reading × List Char) := do
  match cs with
  | [] => none
  | 'k' :: '\x27' :: rest =>
    let (index, rest) ← r.readNamed? '\x27' true rest
    r.add? (.reference index) rest
  | 'k' :: '<' :: rest =>
    let (index, rest) ← r.readNamed? '>' true rest
    r.add? (.reference index) rest
  | 'b' :: '\x7b' :: _ | 'B' :: '\x7b' :: _ => none
  | 'A' :: rest => r.add? (.assertion .textStart) rest
  | 'z' :: rest => r.add? (.assertion .textEnd) rest
  | 'b' :: rest => r.add? (.assertion .wordBoundary) rest
  | 'B' :: rest => r.add? (.assertion .noWordBoundary) rest
  | '<' :: rest => r.add? (.assertion .wordStart) rest
  | '>' :: rest => r.add? (.assertion .wordEnd) rest
  | 'K' :: rest => r.add? .keepOut rest
  | 'G' :: rest => r.add? .searchStart rest
  | 'Z' :: rest => r.add? (.look false false (.plain "\n*$".toList 0 false)) rest
  | c :: _ =>
    if Decimal.isDigit c then
      let (r, index, rest) ← r.readNumbered? bytes cs
      r.add? (.reference index) rest
    else
      let (p, rest) ← readEscape? r.flags.ignoreCase cs
      r.add? p rest

/-- Reads one atom with its repetition, or opens or closes a group. -/
def step? (r : Reading) (bytes : Nat) (cs : List Char) : Option (Reading × List Char) := do
  match cs with
  | [] | '*' :: _ | '+' :: _ | '?' :: _ => none
  | '|' :: rest => return ({ r with frame := r.frame.nextBranch }, rest)
  | '(' :: rest => r.open? bytes rest
  | ')' :: rest => r.close? cs rest
  | '\\' :: rest => r.escape? bytes rest
  | '[' :: rest =>
    let (p, rest) ← readBracket? r.flags.ignoreCase rest
    r.add? p rest
  | '.' :: rest => r.add? (.any r.flags.dotAll) rest
  | '^' :: rest =>
    r.add? (.assertion (if r.flags.multiLine then .lineStart else .textStart)) rest
  | '$' :: rest => r.add? (.assertion (if r.flags.multiLine then .lineEnd else .textEnd)) rest
  | c :: rest => r.add? (.char c r.flags.ignoreCase) rest

/-- Reads to the end, where no group may be open. Every step takes a character, so `steps` need not
be more than the length of the text. -/
def readAll? (bytes : Nat) : (steps : Nat) → Reading → List Char → Option Reading
  | steps, r, cs =>
    match skip? r.flags.extended .blank cs, steps with
    | some [], _ => if r.outer.isEmpty && !r.isMixed then some r else none
    | some cs, steps + 1 => (r.step? bytes cs).bind fun (r, rest) => readAll? bytes steps r rest
    | _, _ => none

end Reading

/-- Reads a regular expression: the pattern and the number of its groups. -/
def read? (text : String) : Option (Pattern × Nat) :=
  let cs := text.toList
  (Reading.readAll? text.utf8ByteSize cs.length {} cs).map fun r => (r.frame.body, r.groups)

end TokenGrammar.Pattern
