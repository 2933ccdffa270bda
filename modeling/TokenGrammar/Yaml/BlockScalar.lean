import TokenGrammar.Decimal.Integer
import TokenGrammar.Yaml.Cursor
import TokenGrammar.Yaml.Token

/-!
# Scalars in blocks

A block of indented lines as one text, which either keeps its lines or joins them.

* `readBlock?`: reads a block behind its sign.
-/

namespace TokenGrammar.Yaml

/-- What becomes of the ends of lines at the end of a block. -/
inductive Chomping where
  /-- None is kept. -/
  | strip
  /-- One is kept. -/
  | clip
  /-- All are kept. -/
  | keep
deriving DecidableEq, Repr

/-- The head of a block: what to do at the end, and how far it is indented, if that is said. -/
structure BlockHead where
  chomping : Chomping := .clip
  indent : Option Nat := none
deriving DecidableEq, Repr

/-- The sign for what to do at the end. -/
def chomping? : Option Char → Option Chomping
  | some '+' => some .keep
  | some '-' => some .strip
  | _ => none

/-- Reads a sign for what to do at the end, if there is one. -/
def readChomping (c : Cursor) : Chomping × Cursor :=
  match chomping? c.head? with
  | some chomping => (chomping, c.next)
  | none => (.clip, c)

/-- Reads how far a block is indented, if that is said; it cannot be zero. -/
def readIndent? (c : Cursor) : Option (Option Nat × Cursor) :=
  match c.head? with
  | none => some (none, c)
  | some d =>
    if d = '0' then none
    else if Decimal.isDigit d then some (some (Decimal.digitsValue [d]), c.next)
    else some (none, c)

/-- Reads the head of a block: the two signs in any order. -/
def readBlockHead? (c : Cursor) : Option (BlockHead × Cursor) :=
  match chomping? c.head? with
  | some chomping => (readIndent? c.next).map fun (indent, c) => (⟨chomping, indent⟩, c)
  | none =>
    match readIndent? c with
    | some (none, c) => some ({}, c)
    | some (indent, c) =>
      let (chomping, c) := readChomping c
      some (⟨chomping, indent⟩, c)
    | none => none

/-- Passes over blanks and a comment up to the end of a line. -/
def skipLineEnd? (c : Cursor) : Option Cursor :=
  let c := c.skipWhile isBlank
  let c := if c.head? = some '#' then c.skipWhile (!isBreak ·) else c
  match c.head? with
  | none => some c
  | some x => if isBreak x then some c.next else none

/-- Passes over the indentation and over lines without text: the ends of the lines, the last one
first, and the greatest indentation seen. No tab may stand in the indentation. -/
def skipEmptyLines? (indent : Option Nat) (widest : Nat) (breaks : List Char) (c : Cursor) :
    Option (List Char × Nat × Cursor) :=
  match _h : c.rest with
  | [] => some (breaks, max widest c.column, c)
  | x :: _ =>
    let isIndentation := indent.all (c.column < ·)
    if isIndentation ∧ x = ' ' then skipEmptyLines? indent widest breaks c.next
    else if isIndentation ∧ x = '\t' then none
    else if isBreak x then skipEmptyLines? indent (max widest c.column) (x :: breaks) c.next
    else some (breaks, max widest c.column, c)
termination_by c.rest.length
decreasing_by
  all_goals
    simp only [Cursor.rest_next, List.length_tail, List.length_cons, *]
    omega

/-- A block so far. -/
structure BlockText where
  /-- The text, the last character first. -/
  text : List Char := []
  /-- The end of the last line. -/
  last : Option Char := none
  /-- The ends of the empty lines behind it, the last one first. -/
  breaks : List Char := []
  /-- Whether the last line begins with a blank. -/
  startsBlank : Bool := false
deriving Repr

namespace BlockText

/-- Adds a line. Two lines are joined unless one of them begins with a blank. -/
def addLine (b : BlockText) (keepsLines : Bool) (line : List Char) (last : Option Char) :
    BlockText :=
  let startsBlank := line.head?.any isBlank
  let gap :=
    if !keepsLines ∧ b.last = some '\n' ∧ !b.startsBlank ∧ !startsBlank then
      if b.breaks.isEmpty then [' '] else b.breaks
    else b.breaks ++ b.last.toList
  { text := line.reverse ++ (gap ++ b.text), last, startsBlank }

/-- The text when the block has ended. -/
def finish (b : BlockText) (chomping : Chomping) : String :=
  let text := match chomping with
    | .strip => b.text
    | .clip => b.last.toList ++ b.text
    | .keep => b.breaks ++ (b.last.toList ++ b.text)
  .ofList text.reverse

end BlockText

/-- Reads the lines of a block. -/
def readLines? (indent : Nat) (keepsLines : Bool) (b : BlockText) (c : Cursor) :
    Option (BlockText × Cursor) :=
  if c.column ≠ indent ∨ c.rest.isEmpty then some (b, c)
  else
    let line := c.rest.takeWhile (!isBreak ·)
    let behind := c.skip line.length
    match skipEmptyLines? (some indent) 0 [] behind.next with
    | none => none
    | some (breaks, _, c') =>
      if c'.rest.length < c.rest.length then
        readLines? indent keepsLines { b.addLine keepsLines line behind.head? with breaks } c'
      else none
termination_by c.rest.length

/-- Reads a block behind its sign. It is indented as its head says, or as its first line, but more
than the block around it, which is indented by `outer`. -/
def readBlock? (keepsLines : Bool) (outer : Option Nat) (c : Cursor) :
    Option (String × Cursor) := do
  let (head, c) ← readBlockHead? c
  let c ← skipLineEnd? c
  let said := head.indent.map (outer.getD 0 + ·)
  let (breaks, widest, c) ← skipEmptyLines? said 0 [] c
  let least := match outer with
    | some n => n + 1
    | none => 1
  let indent := said.getD (max widest least)
  let (b, c) ← readLines? indent keepsLines { breaks } c
  return (b.finish head.chomping, c)

end TokenGrammar.Yaml
