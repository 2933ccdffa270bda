import TokenGrammar.Yaml.FlowScalar
import TokenGrammar.Yaml.Property

/-!
# From indentation to tokens

A text is cut into tokens, and its indentation into the beginnings and ends of blocks. What stands
in front of a colon is a key, so each place where a key may begin is remembered until the colon
comes, or until it can come no more: a key is on one line and has at most 1024 characters.

* `Layout.step?`: cuts off one token;
* `tokens?`: cuts a whole text.
-/

namespace TokenGrammar.Yaml

/-- A place where a key may begin. -/
structure KeyPlace where
  /-- How many tokens stand in front of it. -/
  index : Nat
  line : Nat
  column : Nat
  /-- Whether nothing else than a key may stand there. -/
  isRequired : Bool
deriving Repr

/-- What has been cut off. -/
structure Layout where
  cursor : Cursor
  tokens : Array Token := #[]
  /-- The columns of the blocks that are open, the innermost first. -/
  indents : List Nat := []
  /-- The place where a key may begin outside of brackets. -/
  blockKey : Option KeyPlace := none
  /-- The same for each bracket that is open, the innermost first. -/
  flowKeys : List (Option KeyPlace) := []
  /-- Whether a key may begin here. -/
  allowsKey : Bool := true

namespace Layout

/-- Whether brackets are open. -/
def inFlow (l : Layout) : Bool := !l.flowKeys.isEmpty

/-- The column of the innermost block that is open. -/
def indent (l : Layout) : Option Nat := l.indents.head?

/-- The place where the innermost key may begin. -/
def keyPlace (l : Layout) : Option KeyPlace := l.flowKeys.headD l.blockKey

/-- Changes the place where the innermost key may begin. -/
def setKeyPlace (l : Layout) (place : Option KeyPlace) : Layout :=
  match l.flowKeys with
  | [] => { l with blockKey := place }
  | _ :: outer => { l with flowKeys := place :: outer }

/-- Adds a token. -/
def push (l : Layout) (token : Token) : Layout := { l with tokens := l.tokens.push token }

/-! ## Keys -/

/-- Forgets the place of a key; a key that is required must come. -/
def dropKey? (l : Layout) : Option Layout :=
  if l.keyPlace.any (·.isRequired) then none else some (l.setKeyPlace none)

/-- Remembers this place for a key, if one may begin here. -/
def saveKey? (l : Layout) : Option Layout :=
  if l.allowsKey then
    l.dropKey?.map (·.setKeyPlace (some {
      index := l.tokens.size
      line := l.cursor.line
      column := l.cursor.column
      isRequired := !l.inFlow && l.indent = some l.cursor.column }))
  else some l

/-- Whether the place is too far back for its key. -/
def isStale (c : Cursor) (place : KeyPlace) : Bool :=
  place.line < c.line || place.column + 1024 < c.column

/-- Forgets a place that is too far back. -/
def expire? (c : Cursor) : Option KeyPlace → Option (Option KeyPlace)
  | none => some none
  | some place =>
    if isStale c place then if place.isRequired then none else some none else some (some place)

/-- Forgets all places that are too far back. -/
def expireKeys? (l : Layout) : Option Layout := do
  return { l with
    blockKey := ← expire? l.cursor l.blockKey
    flowKeys := ← l.flowKeys.mapM (expire? l.cursor) }

/-! ## Blocks -/

/-- Opens a block at a column that is further in; `index` tokens stand in front of it. -/
def openBlock (l : Layout) (column index : Nat) (token : Token) : Layout :=
  if !l.inFlow && l.indent.all (· < column) then
    { l with
      indents := column :: l.indents
      tokens := l.tokens.insertIdxIfInBounds index token }
  else l

/-- Closes the blocks that are further in than a column; without a column, all of them. -/
def closeBlocks (l : Layout) (column : Option Nat) : Layout :=
  if l.inFlow then l
  else
    let kept := l.indents.dropWhile fun indent => column.all (· < indent)
    { l with
      indents := kept
      tokens := l.tokens ++ Array.replicate (l.indents.length - kept.length) Token.blockEnd }

/-! ## Tokens -/

/-- Passes over blanks, comments and the ends of lines. Where a key may begin, a tab may not stand
in front of it. A mark of the byte order is passed over where a line begins; it takes a column. -/
def toToken (l : Layout) (allowsKey : Bool) (c : Cursor) : Layout :=
  match _h : c.rest with
  | [] => { l with allowsKey, cursor := c }
  | x :: _ =>
    if x = ' ' ∨ (x = '\t' ∧ (l.inFlow ∨ !allowsKey)) ∨ (x = '\ufeff' ∧ c.column = 0) then
      toToken l allowsKey c.next
    else if x = '#' then toToken l allowsKey (c.next.skipWhile (!isBreak ·))
    else if isBreak x then toToken l (allowsKey || !l.inFlow) c.next
    else { l with allowsKey, cursor := c }
termination_by c.rest.length
decreasing_by
  all_goals
    simp only [Cursor.rest_next, Cursor.rest_skipWhile, List.length_tail, List.length_drop,
      List.length_cons, *]
    omega

/-- Takes a sign that is one character, with the token that it stands for. -/
def takeSign (l : Layout) (token : Token) : Layout :=
  { l with cursor := l.cursor.next }.push token

/-- Takes a token that stands in front of no block: a directive or the mark of a document. -/
def leaveBlocks? (l : Layout) : Option Layout :=
  (l.closeBlocks none).dropKey?.map ({ · with allowsKey := false })

/-- Takes the mark of a document. -/
def documentMark? (l : Layout) (token : Token) : Option Layout :=
  l.leaveBlocks?.map fun l => { l with cursor := l.cursor.skip 3 }.push token

/-- Takes a directive. -/
def directive? (l : Layout) : Option Layout := do
  let l ← l.leaveBlocks?
  let (token, cursor) ← readDirective? l.cursor.next
  return { l with cursor }.push token

/-- Takes an opening bracket. -/
def openFlow? (l : Layout) (token : Token) : Option Layout :=
  l.saveKey?.map fun l =>
    { l with flowKeys := none :: l.flowKeys, allowsKey := true }.takeSign token

/-- Takes a closing bracket. -/
def closeFlow? (l : Layout) (token : Token) : Option Layout :=
  l.dropKey?.map fun l =>
    { l with flowKeys := l.flowKeys.drop 1, allowsKey := false }.takeSign token

/-- Takes a comma. -/
def comma? (l : Layout) : Option Layout :=
  l.dropKey?.map fun l => { l with allowsKey := true }.takeSign .comma

/-- Takes a hyphen in front of an item. -/
def item? (l : Layout) : Option Layout :=
  if !l.inFlow && !l.allowsKey then none
  else
    let l := l.openBlock l.cursor.column l.tokens.size .blockSequence
    l.dropKey?.map fun l => { l with allowsKey := true }.takeSign .item

/-- Takes a question mark in front of a key. -/
def key? (l : Layout) : Option Layout :=
  if !l.inFlow && !l.allowsKey then none
  else
    let l := l.openBlock l.cursor.column l.tokens.size .blockMapping
    l.dropKey?.map fun l => { l with allowsKey := !l.inFlow }.takeSign .key

/-- Takes a colon in front of a value. What stands in front of it is its key. -/
def value? (l : Layout) : Option Layout :=
  match l.keyPlace with
  | some place =>
    let l := { l with tokens := l.tokens.insertIdxIfInBounds place.index .key }
    let l := (l.openBlock place.column place.index .blockMapping).setKeyPlace none
    some ({ l with allowsKey := false }.takeSign .value)
  | none =>
    if !l.inFlow && !l.allowsKey then none
    else
      let l := l.openBlock l.cursor.column l.tokens.size .blockMapping
      some ({ l with allowsKey := !l.inFlow }.takeSign .value)

/-- Takes a token that `read` cuts off and that may be a key or stand in front of one. -/
def node? (l : Layout) (read : Cursor → Option (Token × Cursor)) : Option Layout := do
  let l ← l.saveKey?
  let (token, cursor) ← read l.cursor
  return { l with cursor, allowsKey := false }.push token

/-- Takes a scalar in quotes. -/
def quoted? (l : Layout) (quote : Char) : Option Layout :=
  l.node? fun c =>
    (readQuoted? quote {} c.next).map fun (text, c) => (.scalar .quoted text, c)

/-- Takes a plain scalar. Behind its last line a key may begin. -/
def plain? (l : Layout) : Option Layout := do
  let l ← l.saveKey?
  let least := match l.indent with
    | some n => n + 1
    | none => 0
  let (f, cursor) ← readPlain? l.inFlow least {} l.cursor
  return { l with cursor, allowsKey := f.isBroken }.push (.scalar .plain f.toString)

/-- Takes a block. -/
def block? (l : Layout) (keepsLines : Bool) : Option Layout := do
  let l ← l.dropKey?
  let (text, cursor) ← readBlock? keepsLines l.indent l.cursor.next
  let style := if keepsLines then Style.literal else .folded
  return { l with cursor, allowsKey := true }.push (.scalar style text)

/-- The characters that no plain scalar begins with. -/
def isSign (c : Char) : Bool :=
  ['-', '?', ':', ',', '[', ']', '\x7b', '\x7d', '#', '&', '*', '!', '|', '>', '\x27', '\x22', '%',
    '@', '\x60'].contains c

/-- Whether a plain scalar begins with these characters. -/
def startsPlain (inFlow : Bool) : List Char → Bool
  | [] => false
  | c :: rest =>
    !(isBlank c || isBreak c || isSign c) || (c = '-' && !rest.head?.any isBlank) ||
      (!inFlow && (c = '?' || c = ':') && !endsWord rest.head?)

/-- Takes the token that begins with the next character. -/
def takeToken? (l : Layout) (c : Char) (rest : List Char) : Option Layout :=
  if l.cursor.column = 0 ∧ c = '%' then l.directive?
  else if l.cursor.atMark '-' then l.documentMark? .documentStart
  else if l.cursor.atMark '.' then l.documentMark? .documentEnd
  else if c = '[' then l.openFlow? .openSequence
  else if c = '\x7b' then l.openFlow? .openMapping
  else if c = ']' then l.closeFlow? .closeSequence
  else if c = '\x7d' then l.closeFlow? .closeMapping
  else if c = ',' then l.comma?
  else if c = '-' ∧ endsWord rest.head? then l.item?
  else if c = '?' ∧ (l.inFlow ∨ endsWord rest.head?) then l.key?
  else if c = ':' ∧ (l.inFlow ∨ endsWord rest.head?) then l.value?
  else if c = '*' then
    l.node? fun c => (readName? c.next).map fun (name, c) => (.alias name, c)
  else if c = '&' then
    l.node? fun c => (readName? c.next).map fun (name, c) => (.anchor name, c)
  else if c = '!' then l.node? (readTag? l.inFlow)
  else if c = '|' ∧ !l.inFlow then l.block? true
  else if c = '>' ∧ !l.inFlow then l.block? false
  else if c = '\x27' ∨ c = '\x22' then l.quoted? c
  else if startsPlain l.inFlow (c :: rest) then l.plain?
  else none

/-- Passes over what is in front of the next token, and closes the blocks that end there. -/
def approach? (l : Layout) : Option Layout :=
  (l.toToken l.allowsKey l.cursor).expireKeys?.map fun l => l.closeBlocks (some l.cursor.column)

/-- Closes all blocks at the end of the text. -/
def finish? (l : Layout) : Option (List Token) :=
  (l.closeBlocks none).dropKey?.map (·.tokens.toList)

/-- Cuts the rest of the text into tokens. -/
def cut? (l : Layout) : Option (List Token) :=
  match l.approach? with
  | none => none
  | some here =>
    match here.cursor.rest with
    | [] => here.finish?
    | c :: rest =>
      match here.takeToken? c rest with
      | some next =>
        if next.cursor.rest.length < l.cursor.rest.length then cut? next else none
      | none => none
termination_by l.cursor.rest.length

end Layout

/-- Cuts a text into tokens. -/
def tokens? (text : String) : Option (List Token) :=
  let cs := text.toList
  if cs.all isAllowed then Layout.cut? { cursor := { rest := normalize cs } } else none

end TokenGrammar.Yaml
