import TokenGrammar.Yaml.Token

/-!
# Nodes

The tree that tokens spell out. A node that has an anchor is numbered; an alias stands for the node
with its number.

* `Node.ofTokens?`: the tree of the one document of a text.
-/

namespace TokenGrammar.Yaml

/-- A node with the number of its anchor and its tag. -/
inductive Node where
  | scalar (anchor : Option Nat) (tag : Option String) (style : Style) (text : String)
  | sequence (anchor : Option Nat) (tag : Option String) (items : List Node)
  | mapping (anchor : Option Nat) (tag : Option String) (entries : List (Node × Node))
  | alias (number : Nat)
deriving Repr, Inhabited

namespace Node

/-- The scalar that stands where nothing is written. -/
def empty : Node := .scalar none none .plain ""

/-! ## Reading -/

/-- The tokens to come, and the anchors so far with their numbers. -/
structure Reading where
  tokens : List Token
  anchors : List (String × Nat) := []

/-- A step of reading, which may fail. -/
abbrev Reader := StateT Reading Option

namespace Reader

/-- The next token, without taking it. -/
def peek : Reader (Option Token) := return (← get).tokens.head?

/-- Takes the next token. -/
def skip : Reader Unit := modify fun r => { r with tokens := r.tokens.tail }

/-- Numbers an anchor by how many other names there are; a name that comes again is given a new
number. -/
def number (name : String) : Reader Nat := do
  let anchors := (← get).anchors
  let others := anchors.filter (·.1 ≠ name)
  modify fun r => { r with anchors := (name, anchors.length) :: others }
  return anchors.length

/-- The number of an anchor, which must be known. -/
def lookup (name : String) : Reader Nat := do
  match (← get).anchors.lookup name with
  | some n => return n
  | none => failure

/-- Takes an anchor, if there is one. -/
def anchor : Reader (Option String) := do
  match ← peek with
  | some (.anchor name) => skip; return some name
  | _ => return none

/-- Takes a tag, if there is one, in full. -/
def tag (stems : List (String × String)) : Reader (Option String) := do
  match ← peek with
  | some (.tag handle suffix) =>
    skip
    if handle = "" then return some suffix
    else
      match stems.lookup handle with
      | some stem => return some (stem ++ suffix)
      | none => failure
  | _ => return none

/-- Takes an anchor and a tag in any order. -/
def properties (stems : List (String × String)) : Reader (Option String × Option String) := do
  match ← anchor with
  | some name => return (some name, ← tag stems)
  | none =>
    let tag ← tag stems
    let name ← if tag.isSome then anchor else pure none
    return (name, tag)

end Reader

open Reader (peek skip)

/-- The tag of a scalar: an exclamation mark alone says nothing. -/
def scalarTag (tag : Option String) : Option String := tag.filter (· ≠ "!")

/-- Whether nothing is written for an item or a key of a block in front of the token. -/
def endsItem : Option Token → Bool
  | some .item | some .blockEnd => true
  | _ => false

/-- Whether nothing is written for an item without a block of its own in front of the token. -/
def endsLooseItem : Option Token → Bool
  | some .item | some .key | some .value | some .blockEnd => true
  | _ => false

/-- Whether nothing is written for a key or a value of a block in front of the token. -/
def endsEntry : Option Token → Bool
  | some .key | some .value | some .blockEnd => true
  | _ => false

/-- Whether nothing is written for a value in brackets in front of the token. -/
def endsFlowValue (close : Token) (token : Option Token) : Bool :=
  token = some .comma || token = some close

/-- Whether nothing is written for a key in brackets in front of the token. -/
def endsFlowKey (close : Token) (token : Option Token) : Bool :=
  token = some .value || endsFlowValue close token

mutual

/-- Reads a node. In a block it may be a block of its own, and where `loose` holds also items that
are not further in. -/
def read (stems : List (String × String)) (inBlock loose : Bool) : Nat → Reader Node
  | 0 => failure
  | n + 1 => do
    match ← peek with
    | some (.alias name) =>
      skip
      return .alias (← Reader.lookup name)
    | _ =>
      let (name, tag) ← Reader.properties stems
      let token ← peek
      match token with
      | some (.scalar style text) =>
        skip
        return .scalar (← name.mapM Reader.number) (scalarTag tag) style text
      | some .item =>
        if loose then
          return .sequence (← name.mapM Reader.number) tag (← looseItems stems n)
        else empty? name tag
      | some .openSequence =>
        skip
        return .sequence (← name.mapM Reader.number) tag (← flowItems stems true n)
      | some .openMapping =>
        skip
        return .mapping (← name.mapM Reader.number) tag (← flowEntries stems true n)
      | some .blockSequence =>
        if inBlock then
          skip
          return .sequence (← name.mapM Reader.number) tag (← items stems n)
        else empty? name tag
      | some .blockMapping =>
        if inBlock then
          skip
          return .mapping (← name.mapM Reader.number) tag (← entries stems n)
        else empty? name tag
      | _ => empty? name tag
where
  /-- A node of which only the anchor or the tag is written. -/
  empty? (name tag : Option String) : Reader Node := do
    if name.isSome || tag.isSome then
      return .scalar (← name.mapM Reader.number) tag .plain ""
    else failure

/-- Reads the items of a block. -/
def items (stems : List (String × String)) : Nat → Reader (List Node)
  | 0 => failure
  | n + 1 => do
    match ← peek with
    | some .item =>
      skip
      let first ← if endsItem (← peek) then pure empty else read stems true false n
      return first :: (← items stems n)
    | some .blockEnd => skip; return []
    | _ => failure

/-- Reads items that are not further in than what they belong to. -/
def looseItems (stems : List (String × String)) : Nat → Reader (List Node)
  | 0 => failure
  | n + 1 => do
    match ← peek with
    | some .item =>
      skip
      let first ← if endsLooseItem (← peek) then pure empty else read stems true false n
      return first :: (← looseItems stems n)
    | _ => return []

/-- Reads the entries of a block. -/
def entries (stems : List (String × String)) : Nat → Reader (List (Node × Node))
  | 0 => failure
  | n + 1 => do
    match ← peek with
    | some .key =>
      skip
      let key ← if endsEntry (← peek) then pure empty else read stems true true n
      let value ←
        match ← peek with
        | some .value =>
          skip
          if endsEntry (← peek) then pure empty else read stems true true n
        | _ => pure empty
      return (key, value) :: (← entries stems n)
    | some .blockEnd => skip; return []
    | _ => failure

/-- Reads the items in brackets. An item may be a single entry of a mapping. -/
def flowItems (stems : List (String × String)) (isFirst : Bool) : Nat → Reader (List Node)
  | 0 => failure
  | n + 1 => do
    if (← peek) = some .closeSequence then skip; return []
    else
      if !isFirst then
        if (← peek) = some .comma then skip else failure
      match ← peek with
      | some .closeSequence => skip; return []
      | some .key =>
        skip
        let key ←
          if endsFlowKey .closeSequence (← peek) then
            skip
            pure empty
          else read stems false false n
        let value ← flowValue stems .closeSequence n
        return .mapping none none [(key, value)] :: (← flowItems stems false n)
      | _ =>
        let first ← read stems false false n
        return first :: (← flowItems stems false n)

/-- Reads the value of an entry in brackets. -/
def flowValue (stems : List (String × String)) (close : Token) : Nat → Reader Node
  | 0 => failure
  | n + 1 => do
    if (← peek) = some .value then
      skip
      if endsFlowValue close (← peek) then return empty else read stems false false n
    else return empty

/-- Reads the entries in braces. -/
def flowEntries (stems : List (String × String)) (isFirst : Bool) :
    Nat → Reader (List (Node × Node))
  | 0 => failure
  | n + 1 => do
    if (← peek) = some .closeMapping then skip; return []
    else
      if !isFirst then
        if (← peek) = some .comma then skip else failure
      match ← peek with
      | some .closeMapping => skip; return []
      | some .key =>
        skip
        let key ←
          if endsFlowKey .closeMapping (← peek) then pure empty else read stems false false n
        let value ← flowValue stems .closeMapping n
        return (key, value) :: (← flowEntries stems false n)
      | _ =>
        let key ← read stems false false n
        return (key, empty) :: (← flowEntries stems false n)

end

/-! ## Documents -/

/-- Reads the directives of a document: the handles for tags, the last one first. -/
def directives? (hasVersion : Bool) (stems : List (String × String)) :
    List Token → Option (List (String × String) × List Token)
  | .version major minor :: rest =>
    if hasVersion ∨ major ≠ 1 ∨ (minor ≠ 1 ∧ minor ≠ 2) then none
    else directives? true stems rest
  | .handle name stem :: rest =>
    if (stems.lookup name).isSome then none else directives? hasVersion ((name, stem) :: stems) rest
  | tokens => some (stems, tokens)

/-- The handles that are known in every document. -/
def commonStems : List (String × String) := [("!", "!"), ("!!", "tag:yaml.org,2002:")]

/-- Whether the root of a document is not written in front of these tokens. -/
def endsDocument : List Token → Bool
  | [] | .version .. :: _ | .handle .. :: _ | .documentStart :: _ | .documentEnd :: _ => true
  | _ => false

/-- Reads the root of a document, to the end of the text. -/
def root? (stems : List (String × String)) (tokens : List Token) : Option Node := do
  let (node, rest) ← (read (stems ++ commonStems) true false (4 * tokens.length + 4)).run { tokens }
  if (rest.tokens.dropWhile (· = .documentEnd)).isEmpty then some node else none

/-- The tree of the one document of a text; an empty text has none. -/
def ofTokens? : List Token → Option (Option Node)
  | [] => some none
  | tokens => do
    let (stems, body) ← directives? false [] tokens
    match body with
    | .documentStart :: body =>
      if endsDocument body then
        if (body.dropWhile (· = .documentEnd)).isEmpty then some (some empty) else none
      else (root? stems body).map some
    | _ => if body.length < tokens.length then none else (root? stems tokens).map some

end Node

end TokenGrammar.Yaml
