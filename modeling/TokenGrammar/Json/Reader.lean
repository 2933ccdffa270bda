import TokenGrammar.Decimal.Reader
import TokenGrammar.Json
import TokenGrammar.Text.RangeTable

/-!
# Reading JSON

A text is cut into tokens (`Json.tokens?`), and the tokens are read with a stack of the arrays and
objects that are open (`Json.ofTokens?`). At most 127 may be open at a time.
-/

namespace TokenGrammar.Json

/-- A token of a JSON text. -/
inductive Token where
  | openArray
  | closeArray
  | openObject
  | closeObject
  | comma
  | colon
  /-- A string, a number, or one of the three names. -/
  | atom (json : Json)
deriving Repr

/-! ## Strings -/

/-- The characters up to the closing quote, and what follows it. An escaped character is passed
over together with its backslash. -/
def splitString : List Char → Option (List Char × List Char)
  | [] => none
  | '\x22' :: rest => some ([], rest)
  | '\\' :: c :: rest => (splitString rest).map fun (raw, rest) => ('\\' :: c :: raw, rest)
  | c :: rest => (splitString rest).map fun (raw, rest) => (c :: raw, rest)

/-- What follows a string is shorter. -/
theorem length_of_splitString {cs raw rest : List Char} (h : splitString cs = some (raw, rest)) :
    rest.length < cs.length := by
  fun_induction splitString cs generalizing raw rest with
  | case1 => simp at h
  | case2 tail => simp_all
  | case3 c tail ih =>
    obtain ⟨⟨raw, rest⟩, h, he⟩ := Option.map_eq_some_iff.mp h
    have := ih h
    simp_all
    omega
  | case4 c tail _ _ ih =>
    obtain ⟨⟨raw, rest⟩, h, he⟩ := Option.map_eq_some_iff.mp h
    have := ih h
    simp_all
    omega

/-- Reads four hexadecimal digits. -/
def hexQuad? (a b c d : Char) : Option Nat :=
  if [a, b, c, d].all fun x => (Text.hexDigit? x).isSome then some (Text.hexValue [a, b, c, d])
  else none

/-- The character that stands for itself behind a backslash, or that a letter there stands for. -/
def simpleEscape? (c : Char) : Option Char :=
  if c = '\x22' ∨ c = '\\' ∨ c = '/' then some c
  else if c = 'b' then some '\x08'
  else if c = 'f' then some '\x0c'
  else if c = 'n' then some '\n'
  else if c = 'r' then some '\r'
  else if c = 't' then some '\t'
  else none

/-- Whether the number is the first half of a pair for one character. -/
def isHighHalf (n : Nat) : Bool := 0xD800 ≤ n && n < 0xDC00

/-- Whether the number is the second half of a pair for one character. -/
def isLowHalf (n : Nat) : Bool := 0xDC00 ≤ n && n < 0xE000

/-- The characters that stand between quotes. Control characters must be escaped, and the halves
of a pair must come together. -/
def unescape : List Char → Option (List Char)
  | [] => some []
  | '\\' :: 'u' :: a :: b :: c :: d :: '\\' :: 'u' :: a' :: b' :: c' :: d' :: rest =>
    match hexQuad? a b c d with
    | none => none
    | some n =>
      if isHighHalf n then
        match hexQuad? a' b' c' d' with
        | none => none
        | some m =>
          if isLowHalf m then
            (unescape rest).map (.ofNat (0x10000 + (n - 0xD800) * 0x400 + (m - 0xDC00)) :: ·)
          else none
      else if isLowHalf n then none
      else
        (unescape ('\\' :: 'u' :: a' :: b' :: c' :: d' :: rest)).map (.ofNat n :: ·)
  | '\\' :: 'u' :: a :: b :: c :: d :: rest =>
    match hexQuad? a b c d with
    | none => none
    | some n =>
      if isHighHalf n || isLowHalf n then none else (unescape rest).map (.ofNat n :: ·)
  | '\\' :: c :: rest =>
    match simpleEscape? c with
    | some c => (unescape rest).map (c :: ·)
    | none => none
  | c :: rest => if c = '\\' ∨ c.toNat < 0x20 then none else (unescape rest).map (c :: ·)
termination_by cs => cs.length

/-! ## Numbers and names -/

/-- Whether digits are the whole part of a number: they have no zero in front. -/
def isWhole (digits : List Char) : Bool :=
  match digits with
  | [] => false
  | ['0'] => true
  | c :: cs => c ≠ '0' && (c :: cs).all Decimal.isDigit

/-- Whether the text is digits behind a point, or nothing. -/
def isFraction : List Char → Bool
  | [] => true
  | '.' :: digits => digits ≠ [] && digits.all Decimal.isDigit
  | _ => false

/-- An integer: the integers of 64 bits are kept, and all others are rounded. Zero with a minus is
a floating point number, as no integer has a sign of its own. -/
def readInteger (negative : Bool) (n : Nat) : JsonNumber :=
  if negative then
    match Decimal.toInt64? (-n) with
    | some m => if n = 0 then .float (Decimal.nearest true 0 0) else .negative m
    | none => .float (Decimal.nearest true n 0)
  else
    match Decimal.toUInt64? n with
    | some m => .natural m
    | none => .float (Decimal.nearest false n 0)

/-- Whether the number is an integer or a finite floating point number. -/
def isFiniteNumber : JsonNumber → Bool
  | .float x => x.isFinite
  | _ => true

/-- Reads a number. One that is too large for a floating point number is refused. -/
def readNumber? (word : List Char) : Option JsonNumber :=
  let (negative, body) := match word with
    | '-' :: rest => (true, rest)
    | _ => (false, word)
  let whole := body.takeWhile Decimal.isDigit
  let rest := body.dropWhile Decimal.isDigit
  let number? :=
    if rest.isEmpty then some (readInteger negative (Decimal.digitsValue whole))
    else if isFraction (rest.takeWhile (!Decimal.isExponentMark ·)) then
      (Decimal.readDecimal? negative body).map .float
    else none
  if isWhole whole then number?.filter isFiniteNumber else none

/-- Reads a word: one of the three names or a number. -/
def readWord? (word : List Char) : Option Json :=
  if word = "null".toList then some .null
  else if word = "true".toList then some (.bool true)
  else if word = "false".toList then some (.bool false)
  else (readNumber? word).map .number

/-! ## Tokens -/

/-- Whether the character may stand between tokens. -/
def isBlank (c : Char) : Bool := c = ' ' || c = '\n' || c = '\t' || c = '\r'

/-- The token that a character is by itself. -/
def punctuation? (c : Char) : Option Token :=
  if c = '[' then some .openArray
  else if c = ']' then some .closeArray
  else if c = '\x7b' then some .openObject
  else if c = '\x7d' then some .closeObject
  else if c = ',' then some .comma
  else if c = ':' then some .colon
  else none

/-- Whether the character ends a word. -/
def endsWord (c : Char) : Bool := isBlank c || (punctuation? c).isSome || c = '\x22'

/-- Cuts a text into tokens. -/
def tokens? : List Char → Option (List Token)
  | [] => some []
  | c :: rest =>
    if isBlank c then tokens? rest
    else if c = '\x22' then
      match h : splitString rest with
      | none => none
      | some (raw, rest') =>
        have := length_of_splitString h
        match unescape raw with
        | none => none
        | some cs => (tokens? rest').map (.atom (.string (.ofList cs)) :: ·)
    else
      match punctuation? c with
      | some token => (tokens? rest).map (token :: ·)
      | none =>
        match readWord? (c :: rest.takeWhile (!endsWord ·)) with
        | none => none
        | some json => (tokens? (rest.dropWhile (!endsWord ·))).map (.atom json :: ·)
termination_by cs => cs.length
decreasing_by
  all_goals simp only [List.length_cons]
  · omega
  · omega
  · omega
  · have := (List.dropWhile_sublist (l := rest) (!endsWord ·)).length_le
    omega

/-! ## Arrays and objects -/

/-- An array or object that is open, with what it holds so far, the last one first. -/
inductive Frame where
  | array (items : List Json)
  | object (members : List (String × Json)) (name : String)
deriving Repr

/-- What may come next. -/
inductive Expected where
  /-- A value; in a new array also its end. -/
  | value
  | firstItem
  /-- The name of a member; in a new object also its end. -/
  | name
  | firstName
  /-- The colon behind a name. -/
  | colon (name : String)
  /-- A comma or the end of what is open; or nothing more. -/
  | more (json : Json)
deriving Repr

/-- How many arrays and objects may be open at a time. -/
def maxDepth : Nat := 127

/-- Reads one token: what is open and what may come next behind it. -/
def step (stack : List Frame) (expected : Expected) (token : Token) :
    Option (List Frame × Expected) :=
  match expected, token with
  | .value, .atom json | .firstItem, .atom json => some (stack, .more json)
  | .value, .openArray | .firstItem, .openArray =>
    if stack.length < maxDepth then some (.array [] :: stack, .firstItem) else none
  | .value, .openObject | .firstItem, .openObject =>
    if stack.length < maxDepth then some (.object [] "" :: stack, .firstName) else none
  | .firstItem, .closeArray =>
    match stack with
    | .array items :: stack => some (stack, .more (.array items.reverse))
    | _ => none
  | .name, .atom (.string s) | .firstName, .atom (.string s) => some (stack, .colon s)
  | .firstName, .closeObject =>
    match stack with
    | .object members _ :: stack => some (stack, .more (.object members.reverse))
    | _ => none
  | .colon name, .colon =>
    match stack with
    | .object members _ :: stack => some (.object members name :: stack, .value)
    | _ => none
  | .more json, .comma =>
    match stack with
    | .array items :: stack => some (.array (json :: items) :: stack, .value)
    | .object members name :: stack => some (.object ((name, json) :: members) "" :: stack, .name)
    | [] => none
  | .more json, .closeArray =>
    match stack with
    | .array items :: stack => some (stack, .more (.array (json :: items).reverse))
    | _ => none
  | .more json, .closeObject =>
    match stack with
    | .object members name :: stack =>
      some (stack, .more (.object ((name, json) :: members).reverse))
    | _ => none
  | _, _ => none

/-- Reads tokens to the end, where nothing may be open. -/
def ofTokensFrom? (stack : List Frame) (expected : Expected) : List Token → Option Json
  | [] =>
    match stack, expected with
    | [], .more json => some json
    | _, _ => none
  | token :: tokens =>
    match step stack expected token with
    | some (stack, expected) => ofTokensFrom? stack expected tokens
    | none => none

/-- Reads tokens as one text. -/
def ofTokens? (tokens : List Token) : Option Json := ofTokensFrom? [] .value tokens

/-- Reads a JSON text. -/
def ofText? (text : String) : Option Json := (tokens? text.toList).bind ofTokens?

end TokenGrammar.Json
