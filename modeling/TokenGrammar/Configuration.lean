import TokenGrammar.Argument
import TokenGrammar.Text.LowerCase
import TokenGrammar.Toml.Reader

/-!
# Layered settings

Settings are built in, and a file and single changes lie over them. Tables are merged; anything else
takes the place of what was there.

* `Configuration.put`: lays a value over what stands at a path;
* `Configuration.addText?`: lays a file over a configuration;
* `Configuration.toSettings?`: the settings of a parser.
-/

namespace TokenGrammar

/-- A tree of settings. -/
inductive Configuration where
  /-- An item of a list that was never written. -/
  | missing
  | flag (b : Bool)
  | integer (n : Int64)
  | float (x : Decimal.Binary64)
  | text (s : String)
  | list (items : List Configuration)
  | table (entries : List (String × Configuration))
deriving Repr, Inhabited

namespace Configuration

/-- The entries of a table; anything else has none. -/
def entries : Configuration → List (String × Configuration)
  | .table entries => entries
  | _ => []

/-- The items of a list; anything else has none. -/
def items : Configuration → List Configuration
  | .list items => items
  | _ => []

/-- What stands under a name. -/
def get? (c : Configuration) (name : String) : Option Configuration := c.entries.lookup name

/-- A table with what stands under a name. -/
def set (c : Configuration) (name : String) (value : Configuration) : Configuration :=
  .table ((name, value) :: c.entries.filter (·.1 ≠ name))

mutual

/-- A value over what was there. -/
def mergeOnto (below : Option Configuration) : Configuration → Configuration
  | .table entries => mergeEntries (below.getD (.table [])) entries
  | value => value

/-- The entries of a table over what was there. -/
def mergeEntries (below : Configuration) : List (String × Configuration) → Configuration
  | [] => below
  | (name, value) :: rest => mergeEntries (below.set name (mergeOnto (below.get? name) value)) rest

end

/-- A list with one of its items set; it grows as far as is needed. -/
def setItem (c : Configuration) (index : Nat) (value : Configuration) : Configuration :=
  let items := c.items ++ List.replicate (index + 1 - c.items.length) .missing
  .list (items.set index value)

/-- A step of a path. -/
inductive Step where
  | name (name : String)
  /-- An item of a list; negative numbers count from its end. -/
  | item (number : Int)
deriving DecidableEq, Repr

/-- The index that a number of an item stands for, in a list of so many items. -/
def itemIndex (number : Int) (length : Nat) : Nat :=
  (if number < 0 then length + number else number).toNat

/-- Lays a value over what stands at a path. Tables are merged, but for items of lists. -/
def put (value : Configuration) : List Step → Option Configuration → Configuration
  | [], below => mergeOnto below value
  | .item number :: path, below =>
    let list := below.getD (.list [])
    let index := itemIndex number list.items.length
    list.setItem index (if path.isEmpty then value else put value path list.items[index]?)
  | .name name :: path, below =>
    let table := below.getD (.table [])
    table.set name (put value path (table.get? name))

/-! ## Paths -/

/-- Whether the character may stand in a name of a path. -/
def isNameChar (c : Char) : Bool := c.isAlphanum || c = '_' || c = '-' || c = ' '

/-- Reads the number of an item, between blanks and up to the closing bracket. -/
def readItem? (cs : List Char) : Option (Int × List Char) :=
  let (negative, body) := match cs.dropWhile Toml.isBlank with
    | '-' :: rest => (true, rest)
    | body => (false, body)
  let digits := body.takeWhile Decimal.isDigit
  match Decimal.readInt64? (if negative then '-' :: digits else digits),
      (body.drop digits.length).dropWhile Toml.isBlank with
  | some number, ']' :: rest => some (number.toInt, rest)
  | _, _ => none

/-- Reads the steps of a path behind its first name. -/
def readSteps? (steps : List Step) (cs : List Char) : Option (List Step) :=
  match cs with
  | [] => some steps.reverse
  | '.' :: rest =>
    let name := rest.takeWhile isNameChar
    if name.isEmpty then none
    else readSteps? (.name (.ofList name) :: steps) (rest.drop name.length)
  | '[' :: rest =>
    match readItem? rest with
    | some (number, rest') =>
      if rest'.length ≤ rest.length then readSteps? (.item number :: steps) rest' else none
    | none => none
  | _ => none
termination_by cs.length
decreasing_by
  all_goals
    simp only [List.length_cons, List.length_drop]
    omega

/-- Reads a path: names with points between them, and items in brackets. -/
def readPath? (text : String) : Option (List Step) :=
  let cs := text.toList
  let name := cs.takeWhile isNameChar
  if name.isEmpty then none else readSteps? [.name (.ofList name)] (cs.drop name.length)

/-! ## Files -/

mutual

/-- A value of a file as a configuration. Dates and times are texts. -/
def ofToml : Toml → Configuration
  | .string s | .time s => .text s
  | .integer n => .integer n
  | .float x => .float x
  | .boolean b => .flag b
  | .array items => .list (ofTomlItems items)
  | .tables items => .list (ofTomlItems items).reverse
  | .table _ entries => .table (ofTomlEntries entries)

/-- The items of a list. -/
def ofTomlItems : List Toml → List Configuration
  | [] => []
  | value :: rest => ofToml value :: ofTomlItems rest

/-- The entries of a table. -/
def ofTomlEntries : List (String × Toml) → List (String × Configuration)
  | [] => []
  | (name, value) :: rest => (name, ofToml value) :: ofTomlEntries rest

end

/-- Lays the entries of a file over a configuration. A name that is a path stands for it. -/
def addEntries (c : Configuration) (entries : List (String × Configuration)) : Configuration :=
  entries.foldl
    (fun c (name, value) => put value ((readPath? name).getD [.name name]) (some c)) c

/-- Lays a file over a configuration. -/
def addText? (c : Configuration) (text : String) : Option Configuration :=
  (Toml.ofText? text).map fun t => c.addEntries (ofToml t).entries

/-- Lays one value over a configuration. -/
def addValue? (c : Configuration) (path : String) (value : Configuration) :
    Option Configuration :=
  (readPath? path).map fun steps => put value steps (some c)

/-- What is built in: the settings of a parser. -/
def builtIn : Configuration :=
  let settings : Settings := {}
  .table [("parser", .table
    [("prefix_chars", .text settings.prefixChars), ("ignore_case", .flag settings.ignoreCase)])]

/-! ## Settings -/

/-- A value as a text; numbers and flags are written out. -/
def text? : Configuration → Option String
  | .text s => some s
  | .flag b => some (if b then "true" else "false")
  | .integer n => some (.ofList (Decimal.integerChars n.toInt))
  | .float x => some (.ofList (displayNumber.render x))
  | .missing | .list _ | .table _ => none

/-- A value as a flag; a number is one unless it is zero, and some words are. -/
def flag? : Configuration → Option Bool
  | .flag b => some b
  | .integer n => some (n ≠ 0)
  | .float x => some !x.isZero
  | .text s =>
    let word := Text.toLowerCase s
    if ["1", "true", "on", "yes"].contains word then some true
    else if ["0", "false", "off", "no"].contains word then some false
    else none
  | .missing | .list _ | .table _ => none

/-- A setting, or `default` where there is none. -/
def setting? (value : Option Configuration) (read : Configuration → Option α) (default : α) :
    Option α :=
  match value with
  | some value => read value
  | none => some default

/-- The settings of a parser: by name, or in order. -/
def toSettings? (c : Configuration) : Option Settings :=
  let settings : Settings := {}
  let read (prefixChars ignoreCase : Option Configuration) : Option Settings := do
    return {
      prefixChars := ← setting? prefixChars text? settings.prefixChars
      ignoreCase := ← setting? ignoreCase flag? settings.ignoreCase }
  match c.get? "parser" with
  | some (.table entries) => read (entries.lookup "prefix_chars") (entries.lookup "ignore_case")
  | some (.list items) => read items[0]? items[1]?
  | _ => none

end Configuration

end TokenGrammar
