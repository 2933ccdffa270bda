import TokenGrammar.Regex.Pattern

/-!
# Escaped characters and brackets

What a backslash and the characters behind it stand for, in and out of brackets. A set in brackets
is only cut off here, at the bracket that closes the last one of those that are open; its text, with
the escaped characters put in, is left to the reader of plain patterns, which may see the set end
earlier.

* `Pattern.readEscape?`: reads what follows a backslash;
* `Pattern.readBracket?`: reads a set behind its opening bracket.
-/

namespace TokenGrammar.Pattern

/-- Whether the character is a hexadecimal digit. -/
def isHexDigit (c : Char) : Bool := (Text.hexDigit? c).isSome

/-- The character with a code point in base sixteen. -/
def codePoint? (digits : List Char) : Option Char :=
  let n := Text.hexValue digits
  if n.isValidChar then some (.ofNat n) else none

/-- Reads a code point: as many digits as `count`, or up to eight in braces. -/
def readCodePoint? (count : Nat) (cs : List Char) : Option (Char × List Char) :=
  let digits := cs.take count
  if digits.length = count ∧ digits.all isHexDigit then
    (codePoint? digits).map (·, cs.drop count)
  else
    match cs with
    | '\x7b' :: body =>
      let digits := body.takeWhile isHexDigit
      match body.drop digits.length with
      | '\x7d' :: rest =>
        if digits.isEmpty || 8 < digits.length then none else (codePoint? digits).map (·, rest)
      | _ => none
    | _ => none

/-- The control character that a letter stands for. -/
def control? (c : Char) : Option Char :=
  [('a', '\x07'), ('e', '\x1b'), ('f', '\x0c'), ('n', '\n'), ('r', '\r'), ('t', '\t'),
    ('v', '\x0b')].lookup c

/-- Reads what follows a backslash. Letters that stand for nothing are refused; signs stand for
themselves in any case. -/
def readEscape? (ignoreCase : Bool) : List Char → Option (Pattern × List Char)
  | [] => none
  | c :: rest =>
    if c = 'x' then (readCodePoint? 2 rest).map fun (c, rest) => (.char c ignoreCase, rest)
    else if c = 'u' then (readCodePoint? 4 rest).map fun (c, rest) => (.char c ignoreCase, rest)
    else if c = 'U' then (readCodePoint? 8 rest).map fun (c, rest) => (.char c ignoreCase, rest)
    else if c = 'p' ∨ c = 'P' then
      (Plain.readPropertyName? rest).map fun (_, rest') =>
        let text := rest.take (rest.length - rest'.length)
        (.plain ('\\' :: c :: text) 1 ignoreCase, rest')
    else if c.toLower ∈ ['d', 's', 'w'] then some (.plain ['\\', c] 1 ignoreCase, rest)
    else if c = 'h' then some (.plain "[0-9A-Fa-f]".toList 1 false, rest)
    else if c = 'H' then some (.plain "[^0-9A-Fa-f]".toList 1 false, rest)
    else
      match control? c with
      | some control => some (.char control false, rest)
      | none => if c.isAlpha then none else some (.char c false, rest)

/-- Reads what follows a backslash in brackets, as text; there the letters of some conditions and
references stand for themselves, and nothing is referred to by number. -/
def readBracketEscape? : List Char → Option (List Char × List Char)
  | [] => none
  | c :: rest =>
    if c = 'b' then some (['\x08'], rest)
    else if c.isDigit then none
    else if c ∈ ['k', 'A', 'z', 'B', 'K', 'G'] then some ([c], rest)
    else
      match readEscape? false (c :: rest) with
      | some (.char c _, rest) => some (quote c, rest)
      | some (.plain text _ _, rest) => some (text, rest)
      | _ => none

/-- Cuts off a set up to its last closing bracket; `depth` brackets are open beside the first one,
and `text` is what has been cut off, the last character first. -/
def cut? (depth : Nat) (text : List Char) (cs : List Char) : Option (List Char × List Char) :=
  match cs with
  | [] => none
  | '\\' :: rest =>
    match readBracketEscape? rest with
    | some (escaped, rest') =>
      if rest'.length ≤ rest.length then cut? depth (escaped.reverse ++ text) rest' else none
    | none => none
  | '[' :: rest => cut? (depth + 1) ('[' :: text) rest
  | ']' :: rest =>
    match depth with
    | 0 => some ((']' :: text).reverse, rest)
    | depth + 1 => cut? depth (']' :: text) rest
  | c :: rest => cut? depth (c :: text) rest
termination_by cs.length

/-- Reads a set behind its opening bracket. A caret, and then a closing bracket, do not end it. -/
def readBracket? (ignoreCase : Bool) (cs : List Char) : Option (Pattern × List Char) := do
  let (text, cs) := match cs with
    | '^' :: rest => (['^', '['], rest)
    | _ => (['['], cs)
  let (text, cs) := match cs with
    | ']' :: rest => (']' :: text, rest)
    | _ => (text, cs)
  let (text, rest) ← cut? 0 text cs
  return (.plain text 1 ignoreCase, rest)

end TokenGrammar.Pattern
