import TokenGrammar.Text.RangeTable
import TokenGrammar.Yaml.Folding

/-!
# Scalars on a line

Scalars in quotes, and plain ones.

* `readQuoted?`: a scalar behind its opening quote;
* `readPlain?`: a plain scalar.
-/

namespace TokenGrammar.Yaml

/-- What a character behind a backslash stands for. -/
def simpleEscape? (c : Char) : Option Char :=
  [('0', '\x00'), ('a', '\x07'), ('b', '\x08'), ('t', '\t'), ('\t', '\t'), ('n', '\n'),
    ('v', '\x0b'), ('f', '\x0c'), ('r', '\r'), ('e', '\x1b'), (' ', ' '), ('\x22', '\x22'),
    ('/', '/'), ('\\', '\\'), ('N', '\u0085'), ('_', '\u00a0'), ('L', '\u2028'),
    ('P', '\u2029')].lookup c

/-- How many digits follow a letter behind a backslash. -/
def escapeWidth? (c : Char) : Option Nat := [('x', 2), ('u', 4), ('U', 8)].lookup c

/-- Reads what follows a backslash: the character and how many characters spell it. -/
def readEscape? : List Char → Option (Char × Nat)
  | [] => none
  | c :: rest =>
    match simpleEscape? c, escapeWidth? c with
    | some x, _ => some (x, 1)
    | none, some width =>
      let digits := rest.take width
      let n := Text.hexValue digits
      if digits.length = width ∧ digits.all (fun d => (Text.hexDigit? d).isSome) ∧ n.isValidChar
      then some (.ofNat n, width + 1) else none
    | none, none => none

/-- Reads a scalar behind its opening quote, up to the closing one. -/
def readQuoted? (quote : Char) (f : Folding) (c : Cursor) : Option (String × Cursor) :=
  match _h : c.rest with
  | [] => none
  | x :: rest =>
    if isBlank x then readQuoted? quote (f.blank x) c.next
    else if isBreak x then readQuoted? quote (f.lineBreak x) c.next
    else if c.atDocumentMark then none
    else if x = quote then
      if quote = '\x27' ∧ rest.head? = some '\x27' then
        readQuoted? quote (f.push '\x27') (c.skip 2)
      else some (f.join.toString, c.next)
    else if quote = '\x22' ∧ x = '\\' then
      if rest.head?.any isBreak then readQuoted? quote f.join.escapedBreak (c.skip 2)
      else
        match readEscape? rest with
        | some (x, n) => readQuoted? quote (f.push x) (c.skip (n + 1))
        | none => none
    else readQuoted? quote (f.push x) c.next
termination_by c.rest.length
decreasing_by
  all_goals
    simp only [Cursor.rest_next, Cursor.rest_skip, List.length_tail, List.length_drop,
      List.length_cons, *]
    omega

/-- Whether a plain scalar ends in front of these characters. -/
def endsPlain (inFlow : Bool) : List Char → Bool
  | [] => true
  | c :: rest =>
    (c = ':' && endsWord rest.head?) ||
      (inFlow && (c = ',' || c = '[' || c = ']' || c = '\x7b' || c = '\x7d'))

/-- Whether a colon stands where it can be neither text nor the sign of a value. -/
def isStrayColon (inFlow : Bool) : List Char → Bool
  | ':' :: c :: _ =>
    inFlow &&
      (c = ',' || c = '?' || c = '[' || c = ']' || c = '\x7b' || c = '\x7d')
  | _ => false

/-- Reads a plain scalar. Its further lines are indented by `indent` at least, unless it stands in
brackets. What is behind the text has been passed over. -/
def readPlain? (inFlow : Bool) (indent : Nat) (f : Folding) (c : Cursor) :
    Option (Folding × Cursor) :=
  match _h : c.rest with
  | [] => some (f, c)
  | x :: _ =>
    if isBlank x then
      if f.isBroken ∧ c.column < indent ∧ x = '\t' then none
      else readPlain? inFlow indent (f.blank x) c.next
    else if isBreak x then readPlain? inFlow indent (f.lineBreak x) c.next
    else if f.isPending ∧ ((!inFlow ∧ c.column < indent) ∨ c.atDocumentMark ∨ x = '#') then
      some (f, c)
    else if isStrayColon inFlow c.rest then none
    else if endsPlain inFlow c.rest then some (f, c)
    else readPlain? inFlow indent (f.push x) c.next
termination_by c.rest.length
decreasing_by
  all_goals
    simp only [Cursor.rest_next, List.length_tail, List.length_cons, *]
    omega

end TokenGrammar.Yaml
