import TokenGrammar.Text.RangeTable

/-!
# Strings of TOML

Four ways to write a string: with or without escapes, on one line or on several.

* `Toml.readString?`: reads a string with its quotes.
-/

namespace TokenGrammar.Toml

/-- Whether the character is a space or a tab. -/
def isBlank (c : Char) : Bool := c = ' ' || c = '\t'

/-- Whether the character may stand in a text on one line. -/
def isPlain (c : Char) : Bool :=
  c = '\t' || (0x20 ≤ c.toNat && c.toNat ≠ 0x7F)

/-- The end of a line in front, and what follows it. -/
def readLineEnd? : List Char → Option (List Char)
  | '\n' :: rest => some rest
  | '\r' :: '\n' :: rest => some rest
  | _ => none

/-- The character that stands behind a backslash for another one. -/
def simpleEscape? (c : Char) : Option Char :=
  [('b', '\x08'), ('t', '\t'), ('n', '\n'), ('f', '\x0c'), ('r', '\r'), ('\x22', '\x22'),
    ('\\', '\\')].lookup c

/-- Reads what follows a backslash: the character, and how many characters spell it. -/
def readEscape? : List Char → Option (Char × Nat)
  | [] => none
  | c :: rest =>
    match simpleEscape? c, [('u', 4), ('U', 8)].lookup c with
    | some x, _ => some (x, 1)
    | none, some width =>
      let digits := rest.take width
      let n := Text.hexValue digits
      if digits.length = width ∧ digits.all (fun d => (Text.hexDigit? d).isSome) ∧ n.isValidChar
      then some (.ofNat n, width + 1) else none
    | none, none => none

/-- Passes over blanks and ends of lines. -/
def skipLines (cs : List Char) : List Char :=
  match cs with
  | [] => []
  | '\r' :: '\n' :: rest => skipLines rest
  | c :: rest => if isBlank c ∨ c = '\n' then skipLines rest else c :: rest

/-- A backslash at the end of a line joins it to the next one: what follows the gap. -/
def skipJoint? (cs : List Char) : Option (List Char) :=
  (readLineEnd? (cs.dropWhile isBlank)).map skipLines

/-- Reads up to a closing quote on the same line. -/
def readLine? (quote : Char) (text : List Char) (cs : List Char) : Option (String × List Char) :=
  match cs with
  | [] => none
  | c :: rest =>
    if c = quote then some (.ofList text.reverse, rest)
    else if c = '\\' ∧ quote = '\x22' then
      match readEscape? rest with
      | some (x, n) => readLine? quote (x :: text) (rest.drop n)
      | none => none
    else if isPlain c then readLine? quote (c :: text) rest
    else none
termination_by cs.length
decreasing_by
  all_goals
    simp only [List.length_cons, List.length_drop]
    omega

/-- The number of quotes in front, and what follows them. -/
def countQuotes (quote : Char) (cs : List Char) : Nat × List Char :=
  let n := (cs.takeWhile (· = quote)).length
  (n, cs.drop n)

/-- Reads up to three closing quotes. One or two more of them belong to the text. -/
def readLines? (quote : Char) (text : List Char) (cs : List Char) :
    Option (String × List Char) :=
  match cs with
  | [] => none
  | c :: rest =>
    if c = quote then
      let (n, behind) := countQuotes quote rest
      let text := List.replicate (if 2 ≤ n then n - 2 else n + 1) quote ++ text
      if 5 ≤ n then none
      else if 2 ≤ n then some (.ofList text.reverse, behind)
      else if behind.length ≤ rest.length then readLines? quote text behind
      else none
    else if c = '\\' ∧ quote = '\x22' then
      match readEscape? rest, skipJoint? rest with
      | some (x, n), _ => readLines? quote (x :: text) (rest.drop n)
      | none, some behind =>
        if behind.length ≤ rest.length then readLines? quote text behind else none
      | none, none => none
    else if isPlain c ∨ c = '\n' then readLines? quote (c :: text) rest
    else
      match readLineEnd? cs with
      | some behind =>
        if behind.length ≤ rest.length then readLines? quote ('\n' :: text) behind else none
      | none => none
termination_by cs.length
decreasing_by
  all_goals
    simp only [List.length_cons, List.length_drop]
    omega

/-- Reads a string with its quotes. The end of a line right behind three quotes does not count. -/
def readString? (quote : Char) (cs : List Char) : Option (String × List Char) :=
  match cs with
  | a :: b :: c :: rest =>
    if a = quote ∧ b = quote ∧ c = quote then
      readLines? quote [] ((readLineEnd? rest).getD rest)
    else if a = quote then readLine? quote [] (b :: c :: rest)
    else none
  | a :: rest => if a = quote then readLine? quote [] rest else none
  | [] => none

end TokenGrammar.Toml
