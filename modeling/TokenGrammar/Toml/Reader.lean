import TokenGrammar.Toml.Scalar
import TokenGrammar.Toml.Text

/-!
# Reading TOML

A text is read line by line: a key with its value, or the header of a table to which the keys below
it belong.

* `Toml.ofText?`: the table that a text spells out.
-/

namespace TokenGrammar.Toml

/-! ## Keys -/

/-- Whether the character may stand in a key without quotes. -/
def isKeyChar (c : Char) : Bool := c.isAlphanum || c = '-' || c = '_'

/-- Reads one name of a key. -/
def readName? (cs : List Char) : Option (String × List Char) :=
  match cs with
  | '\x22' :: rest => readLine? '\x22' [] rest
  | '\x27' :: rest => readLine? '\x27' [] rest
  | _ =>
    let name := cs.takeWhile isKeyChar
    if name.isEmpty then none else some (.ofList name, cs.drop name.length)

/-- Reads a key: names with points between them. The path of the key and its last name. -/
def readKey? (path : List String) (cs : List Char) : Option (List String × String × List Char) :=
  match readName? (cs.dropWhile isBlank) with
  | none => none
  | some (name, rest) =>
    match rest.dropWhile isBlank with
    | '.' :: rest =>
      if rest.length < cs.length then readKey? (name :: path) rest else none
    | rest => some (path.reverse, name, rest)
termination_by cs.length

/-! ## Values -/

/-- Passes over a comment, in which no control character stands. -/
def skipComment? (cs : List Char) : Option (List Char) :=
  match cs with
  | '#' :: rest =>
    let behind := rest.dropWhile isPlain
    if behind.isEmpty || (readLineEnd? behind).isSome then some behind else none
  | _ => some cs

/-- Passes over blanks, comments and the ends of lines, as they stand between the items of an
array. -/
def skipGap? (cs : List Char) : Option (List Char) :=
  match skipComment? (cs.dropWhile isBlank) with
  | none => none
  | some rest =>
    match readLineEnd? rest with
    | some behind => if behind.length < cs.length then skipGap? behind else none
    | none => some rest
termination_by cs.length

/-- How deep arrays and tables may be nested. -/
def maxDepth : Nat := 80

mutual

/-- Reads a value; `depth` arrays and tables may still be opened, and `fuel` bounds the steps. -/
def readValue? : (fuel depth : Nat) → List Char → Option (Toml × List Char)
  | 0, _, _ => none
  | fuel + 1, depth, cs =>
    match cs, depth with
    | '[' :: rest, depth + 1 => do
      if depth = 0 then none
      else
        let (items, rest) ← readItems? fuel depth (← skipGap? rest)
        return (.array items, rest)
    | '\x7b' :: rest, depth + 1 => do
      if depth = 0 then none
      else
        match rest.dropWhile isBlank with
        | '\x7d' :: rest => return (emptyTable .closed, rest)
        | rest =>
          let (t, rest) ← readEntries? fuel depth (emptyTable .headed) rest
          match t with
          | .table _ entries => return (.table .closed entries, rest)
          | _ => none
    | c :: _, _ =>
      if c = '\x22' ∨ c = '\x27' then
        (readString? c cs).map fun (s, rest) => (.string s, rest)
      else
        let n := wordLength cs
        (ofWord? (cs.take n)).map (·, cs.drop n)
    | [], _ => none

/-- Reads the items of an array up to its closing bracket. -/
def readItems? : (fuel depth : Nat) → List Char → Option (List Toml × List Char)
  | 0, _, _ => none
  | fuel + 1, depth, cs =>
    match cs with
    | ']' :: rest => some ([], rest)
    | _ => do
      let (item, rest) ← readValue? fuel depth cs
      match ← skipGap? rest with
      | ',' :: rest =>
        let (items, rest) ← readItems? fuel depth (← skipGap? rest)
        return (item :: items, rest)
      | ']' :: rest => return ([item], rest)
      | _ => none

/-- Reads the entries of a table on one line up to its closing brace. -/
def readEntries? : (fuel depth : Nat) → Toml → List Char → Option (Toml × List Char)
  | 0, _, _, _ => none
  | fuel + 1, depth, t, cs => do
    let (path, name, rest) ← readKey? [] cs
    let (value, rest) ← readValue? fuel depth ((← after? '=' rest).dropWhile isBlank)
    let t ← t.insert? path name value
    match rest.dropWhile isBlank with
    | ',' :: rest => readEntries? fuel depth t rest
    | '\x7d' :: rest => return (t, rest)
    | _ => none

end

/-! ## Lines -/

/-- Passes over the end of a line, in front of which blanks and a comment may stand. -/
def endLine? (cs : List Char) : Option (List Char) := do
  match ← skipComment? (cs.dropWhile isBlank) with
  | [] => return []
  | rest => readLineEnd? rest

/-- A text so far: the whole table, and the path of the header that the lines stand under. -/
structure Reading where
  root : Toml := emptyTable .headed
  header : List String := []

namespace Reading

/-- Adds a key with its value under the header. -/
def insert? (r : Reading) (path : List String) (name : String) (value : Toml) : Option Reading := do
  let root ← changeAt? false
    (fun kind entries => (Toml.table kind entries).insert? path name value) r.header r.root
  return { r with root }

/-- Reads the header of a table behind its opening brackets. -/
def header? (r : Reading) (isArray : Bool) (cs : List Char) : Option (Reading × List Char) := do
  let (path, name, rest) ← readKey? [] cs
  let rest ← after? ']' rest
  let rest ← if isArray then after? ']' rest else some rest
  let root ← if isArray then r.root.openTables? path name else r.root.openTable? path name
  return (⟨root, path ++ [name]⟩, rest)

/-- Reads one line. -/
def line? (r : Reading) (cs : List Char) : Option (Reading × List Char) := do
  match cs.dropWhile isBlank with
  | [] => return (r, [])
  | '[' :: '[' :: rest =>
    let (r, rest) ← r.header? true rest
    return (r, ← endLine? rest)
  | '[' :: rest =>
    let (r, rest) ← r.header? false rest
    return (r, ← endLine? rest)
  | c :: rest =>
    if c = '#' ∨ c = '\n' ∨ c = '\r' then return (r, ← endLine? (c :: rest))
    else
      let (path, name, rest) ← readKey? [] (c :: rest)
      let (value, rest) ← readValue? (2 * rest.length + 2) maxDepth
        ((← after? '=' rest).dropWhile isBlank)
      return (← r.insert? path name value, ← endLine? rest)

/-- Reads all lines. -/
def lines? (r : Reading) (cs : List Char) : Option Reading :=
  if cs.isEmpty then some r
  else
    match r.line? cs with
    | some (r, rest) => if rest.length < cs.length then lines? r rest else none
    | none => none
termination_by cs.length

end Reading

/-- The table that a text spells out. A mark of the byte order in front does not count. -/
def ofText? (text : String) : Option Toml :=
  let cs := match text.toList with
    | '\ufeff' :: cs => cs
    | cs => cs
  (Reading.lines? {} cs).map (·.root)

end TokenGrammar.Toml
