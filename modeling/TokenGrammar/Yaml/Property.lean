import TokenGrammar.Decimal.Integer
import TokenGrammar.Text.RangeTable
import TokenGrammar.Yaml.BlockScalar

/-!
# Anchors, tags and directives

What may stand in front of a node, and the lines in front of a document.

* `readName?`: the name of an anchor or an alias;
* `readTag?`: a tag;
* `readDirective?`: a line in front of a document.
-/

namespace TokenGrammar.Yaml

/-- Whether the character may stand behind the name of an anchor without a blank. -/
def followsName (c : Char) : Bool :=
  c = '?' || c = ':' || c = ',' || c = ']' || c = '\x7d' || c = '%' || c = '@' || c = '\x60'

/-- Reads the name of an anchor or an alias, behind its sign. -/
def readName? (c : Cursor) : Option (String × Cursor) :=
  let name := c.rest.takeWhile isNameChar
  let c := c.skip name.length
  if !name.isEmpty ∧ (endsWord c.head? ∨ c.head?.any followsName) then some (.ofList name, c)
  else none

/-! ## Tags -/

/-- Whether the character may stand in a tag; a tag in angle brackets may hold more. -/
def isTagChar (inBrackets : Bool) (c : Char) : Bool :=
  isNameChar c ||
    [';', '/', '?', ':', '@', '&', '=', '+', '$', '.', '%', '!', '~', '*', '\x27', '(',
      ')'].contains c ||
    (inBrackets && (c = ',' || c = '[' || c = ']'))

/-- The byte that a percent sign and two digits spell. -/
def percentByte? : List Char → Option Nat
  | '%' :: a :: b :: _ =>
    if (Text.hexDigit? a).isSome && (Text.hexDigit? b).isSome then some (Text.hexValue [a, b])
    else none
  | _ => none

/-- The further bytes of a character, each of which adds six bits. -/
def percentTail? (value : Nat) : Nat → List Char → Option Nat
  | 0, _ => some value
  | n + 1, cs =>
    match percentByte? cs with
    | some byte =>
      if byte / 64 = 2 then percentTail? (value * 64 + byte % 64) n (cs.drop 3) else none
    | none => none

/-- The character that bytes behind percent signs spell, and how many bytes follow the first. -/
def percentChar? (cs : List Char) : Option (Char × Nat) := do
  let byte ← percentByte? cs
  let (start, further) ←
    if byte < 0x80 then some (byte, 0)
    else if byte / 32 = 6 then some (byte % 32, 1)
    else if byte / 16 = 14 then some (byte % 16, 2)
    else if byte / 8 = 30 then some (byte % 8, 3)
    else none
  let n ← percentTail? start further (cs.drop 3)
  if n.isValidChar then some (.ofNat n, further) else none

/-- Reads the characters of a tag. -/
def readTagChars? (inBrackets : Bool) (text : List Char) (c : Cursor) :
    Option (List Char × Cursor) :=
  match _h : c.rest with
  | [] => some (text.reverse, c)
  | x :: _ =>
    if !isTagChar inBrackets x then some (text.reverse, c)
    else if x = '%' then
      match percentChar? c.rest with
      | some (y, n) => readTagChars? inBrackets (y :: text) (c.skip (3 * n + 3))
      | none => none
    else readTagChars? inBrackets (x :: text) c.next
termination_by c.rest.length
decreasing_by
  all_goals
    simp only [Cursor.rest_next, Cursor.rest_skip, List.length_tail, List.length_drop,
      List.length_cons, *]
    omega

/-- Reads a handle: an exclamation mark, and perhaps a name and a second mark. -/
def readHandle (c : Cursor) : List Char × Cursor :=
  let name := c.next.rest.takeWhile isNameChar
  let c := c.next.skip name.length
  if c.head? = some '!' then ('!' :: name ++ ['!'], c.next) else ('!' :: name, c)

/-- Whether the characters are a handle with a name, or the one without. -/
def isNamedHandle (handle : List Char) : Bool :=
  1 < handle.length && handle.getLast? = some '!'

/-- Reads a tag, which must end where a word ends. -/
def readTag? (inFlow : Bool) (c : Cursor) : Option (Token × Cursor) := do
  let (tag, c) ←
    match c.rest with
    | '!' :: '<' :: _ =>
      let (suffix, c) ← readTagChars? true [] (c.skip 2)
      if suffix.isEmpty ∨ c.head? ≠ some '>' then none
      else some (Token.tag "" (.ofList suffix), c.next)
    | _ =>
      let (handle, c) := readHandle c
      if isNamedHandle handle then
        let (suffix, c) ← readTagChars? false [] c
        if suffix.isEmpty then none else some (Token.tag (.ofList handle) (.ofList suffix), c)
      else
        let (suffix, c) ← readTagChars? false (handle.drop 1).reverse c
        if suffix.isEmpty then some (Token.tag "" "!", c)
        else some (Token.tag "!" (.ofList suffix), c)
  if (inFlow ∧ c.head? = some ',') ∨ endsWord c.head? then some (tag, c) else none

/-! ## Directives -/

/-- Reads a number of at most nine digits. -/
def readVersionNumber? (c : Cursor) : Option (Nat × Cursor) :=
  let digits := c.rest.takeWhile Decimal.isDigit
  if digits.isEmpty ∨ 9 < digits.length then none
  else some (Decimal.digitsValue digits, c.skip digits.length)

/-- Reads a directive behind its name. -/
def readDirectiveBody? (name : String) (c : Cursor) : Option (Token × Cursor) := do
  let c := c.skipWhile isBlank
  if name = "YAML" then
    let (major, c) ← readVersionNumber? c
    if c.head? ≠ some '.' then none
    else
      let (minor, c) ← readVersionNumber? c.next
      return (.version major minor, c)
  else if name = "TAG" then
    if c.head? ≠ some '!' then none
    else
      let (handle, c) := readHandle c
      if (isNamedHandle handle ∨ handle = ['!']) ∧ c.head?.any isBlank then
        let (stem, c) ← readTagChars? true [] (c.skipWhile isBlank)
        if stem.isEmpty ∨ !endsWord c.head? then none
        else return (.handle (.ofList handle) (.ofList stem), c)
      else none
  else none

/-- Reads a directive behind its percent sign, up to the end of the line. -/
def readDirective? (c : Cursor) : Option (Token × Cursor) := do
  let name := c.rest.takeWhile isNameChar
  let c := c.skip name.length
  if name.isEmpty ∨ !endsWord c.head? then none
  else
    let (directive, c) ← readDirectiveBody? (.ofList name) c
    return (directive, ← skipLineEnd? c)

end TokenGrammar.Yaml
