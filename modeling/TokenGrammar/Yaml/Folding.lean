import TokenGrammar.Yaml.Cursor

/-!
# Folding lines

A scalar in quotes or without them may go over several lines. A single end of a line is a space;
of several ones the first does not count. Blanks around them are dropped.
-/

namespace TokenGrammar.Yaml

/-- A text so far, with the blanks or line ends behind it. -/
structure Folding where
  /-- The text, the last character first. -/
  text : List Char := []
  /-- Blanks on the line, the last one first. -/
  blanks : List Char := []
  /-- Whether a line has ended. -/
  isBroken : Bool := false
  /-- The first end of a line, unless it is escaped. -/
  first : Option Char := none
  /-- Further ends of lines, the last one first. -/
  more : List Char := []
deriving Repr

namespace Folding

/-- Adds a blank; at the beginning of a line it does not count. -/
def blank (f : Folding) (c : Char) : Folding :=
  if f.isBroken then f else { f with blanks := c :: f.blanks }

/-- Ends a line. -/
def lineBreak (f : Folding) (c : Char) : Folding :=
  if f.isBroken then { f with more := c :: f.more }
  else { f with blanks := [], isBroken := true, first := some c }

/-- Ends a line that the text goes over without a space. -/
def escapedBreak (f : Folding) : Folding := { f with isBroken := true }

/-- Whether there are blanks or line ends behind the text. -/
def isPending (f : Folding) : Bool := f.isBroken || !f.blanks.isEmpty

/-- Joins the blanks or line ends to the text. -/
def join (f : Folding) : Folding :=
  if f.isBroken then
    match f.first with
    | some '\n' => { text := (if f.more.isEmpty then [' '] else f.more) ++ f.text }
    | first => { text := f.more ++ (first.toList ++ f.text) }
  else { text := f.blanks ++ f.text }

/-- Adds a character. -/
def push (f : Folding) (c : Char) : Folding :=
  let f := f.join
  { f with text := c :: f.text }

/-- The text without what is behind it. -/
def toString (f : Folding) : String := .ofList f.text.reverse

end Folding

end TokenGrammar.Yaml
