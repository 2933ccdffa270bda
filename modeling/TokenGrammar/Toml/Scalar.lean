import TokenGrammar.Decimal.Reader
import TokenGrammar.Text.RangeTable
import TokenGrammar.Toml.Tree

/-!
# Scalars of TOML

Numbers, flags, dates and times. Each is one word, but that a blank may stand between a date and a
time.

* `Toml.readWord?`: what a word stands for.
-/

namespace TokenGrammar.Toml

open Decimal (isDigit digitsValue)

/-! ## Numbers -/

/-- Digits without the marks between them; a mark stands between two digits. -/
def readMarked? (isDigit : Char → Bool) : List Char → Option (List Char)
  | [] => none
  | [c] => if isDigit c then some [c] else none
  | c :: '_' :: rest => if isDigit c then (readMarked? isDigit rest).map (c :: ·) else none
  | c :: rest => if isDigit c then (readMarked? isDigit rest).map (c :: ·) else none

/-- The digits of a whole number, which has no zero in front. -/
def readWhole? (cs : List Char) : Option (List Char) :=
  (readMarked? isDigit cs).filter fun digits => digits.length = 1 || digits.head? ≠ some '0'

/-- Reads a number in base sixteen, eight or two. -/
def readBase? (base : Nat) (cs : List Char) : Option Nat :=
  (readMarked? (fun c => (Text.hexDigit? c).any (· < base)) cs).map fun digits =>
    digits.foldl (fun n c => base * n + (Text.hexDigit? c).getD 0) 0

/-- Reads an integer, which must be one of 64 bits. -/
def readInteger? (cs : List Char) : Option Int64 :=
  match cs with
  | '0' :: 'x' :: rest => (readBase? 16 rest).bind fun n => Decimal.toInt64? n
  | '0' :: 'o' :: rest => (readBase? 8 rest).bind fun n => Decimal.toInt64? n
  | '0' :: 'b' :: rest => (readBase? 2 rest).bind fun n => Decimal.toInt64? n
  | _ =>
    let (negative, body) := Decimal.readSign cs
    (readWhole? body).bind fun digits =>
      let n : Int := digitsValue digits
      Decimal.toInt64? (if negative then -n else n)

/-- Reads an exponent: digits with an optional sign. -/
def readExponent? (cs : List Char) : Option Int :=
  let (negative, body) := Decimal.readSign cs
  (readMarked? isDigit body).map fun digits =>
    if negative then -(digitsValue digits : Int) else digitsValue digits

/-- Reads a floating point number. It has a point or an exponent, and is not too large. -/
def readFloat? (cs : List Char) : Option Decimal.Binary64 := do
  let (negative, body) := Decimal.readSign cs
  if body = "inf".toList then return .infinity negative
  else if body = "nan".toList then return .nan negative
  else
    let mantissa := body.takeWhile (!Decimal.isExponentMark ·)
    let exponent ← match body.drop mantissa.length with
      | [] => some none
      | _ :: rest => (readExponent? rest).map some
    let whole := mantissa.takeWhile (· ≠ '.')
    let fraction ← match mantissa.drop whole.length with
      | [] => some none
      | _ :: rest => (readMarked? isDigit rest).map some
    let digits ← readWhole? whole
    let places := fraction.getD []
    let x := Decimal.nearest negative (digitsValue (digits ++ places))
      (exponent.getD 0 - places.length)
    if (exponent.isNone ∧ fraction.isNone) ∨ (!x.isFinite ∧ !negative) then none else return x

/-! ## Dates and times -/

/-- Reads a number of a certain width within bounds. -/
def readField? (width lo hi : Nat) (cs : List Char) : Option (Nat × List Char) :=
  let digits := cs.take width
  let n := digitsValue digits
  if digits.length = width ∧ digits.all isDigit ∧ lo ≤ n ∧ n ≤ hi then some (n, cs.drop width)
  else none

/-- What follows a character. -/
def after? (c : Char) : List Char → Option (List Char)
  | d :: rest => if c = d then some rest else none
  | [] => none

/-- The number of days in a month. -/
def daysIn (year month : Nat) : Nat :=
  if month = 2 then
    if year % 4 = 0 ∧ (year % 100 ≠ 0 ∨ year % 400 = 0) then 29 else 28
  else if month ∈ [4, 6, 9, 11] then 30
  else 31

/-- Reads a date, as its text. -/
def readDate? (cs : List Char) : Option (List Char × List Char) := do
  let (year, rest) ← readField? 4 0 9999 cs
  let (month, rest) ← readField? 2 1 12 (← after? '-' rest)
  let (_, rest) ← readField? 2 1 (daysIn year month) (← after? '-' rest)
  return (cs.take 10, rest)

/-- Reads the fraction of a second: nine digits count, and zeros at the end do not. -/
def readFraction? (cs : List Char) : Option (List Char × List Char) :=
  match cs with
  | '.' :: rest =>
    let digits := rest.takeWhile isDigit
    let counted := ((digits.take 9).reverse.dropWhile (· = '0')).reverse
    if digits.isEmpty then none
    else some (if counted.isEmpty then [] else '.' :: counted, rest.drop digits.length)
  | _ => some ([], cs)

/-- Reads a time of day, as its text. -/
def readClock? (cs : List Char) : Option (List Char × List Char) := do
  let (_, rest) ← readField? 2 0 23 cs
  let (_, rest) ← readField? 2 0 59 (← after? ':' rest)
  let (_, rest) ← readField? 2 0 60 (← after? ':' rest)
  let (fraction, rest) ← readFraction? rest
  return (cs.take 8 ++ fraction, rest)

/-- Reads the distance to the time of Greenwich, as its text. None is nothing. -/
def readOffset? (cs : List Char) : Option (List Char) :=
  match cs with
  | [] => some []
  | sign :: rest =>
    if (sign = 'Z' ∨ sign = 'z') ∧ rest.isEmpty then some ['Z']
    else if sign = '+' ∨ sign = '-' then do
      let (hours, minutes) ← readField? 2 0 23 rest
      let (minutes, rest) ← readField? 2 0 59 (← after? ':' minutes)
      if !rest.isEmpty then none
      else if hours = 0 ∧ minutes = 0 then return "+00:00".toList
      else return cs
    else none

/-- Whether the character may stand between a date and a time. -/
def isTimeMark (c : Char) : Bool := c = 'T' || c = 't' || c = ' '

/-- Reads a date, a time of day or both, as a text. -/
def readTime? (cs : List Char) : Option String :=
  match readDate? cs, readClock? cs with
  | some (date, []), _ => some (.ofList date)
  | some (date, mark :: rest), _ =>
    if isTimeMark mark then do
      let (clock, rest) ← readClock? rest
      return .ofList (date ++ 'T' :: clock ++ (← readOffset? rest))
    else none
  | none, some (clock, []) => some (.ofList clock)
  | none, _ => none

/-! ## Words -/

/-- Whether the character may stand in a word. -/
def isWordChar (c : Char) : Bool :=
  c.isAlphanum || c = '+' || c = '-' || c = '.' || c = '_' || c = ':'

/-- The length of the word in front. A blank between a date and a time belongs to it. -/
def wordLength (cs : List Char) : Nat :=
  let n := (cs.takeWhile isWordChar).length
  match readDate? (cs.take n), cs.drop n with
  | some (_, []), ' ' :: d :: rest =>
    if isDigit d then n + 1 + ((d :: rest).takeWhile isWordChar).length else n
  | _, _ => n

/-- What a word stands for. -/
def ofWord? (word : List Char) : Option Toml :=
  if word = "true".toList then some (.boolean true)
  else if word = "false".toList then some (.boolean false)
  else
    match readTime? word, readFloat? word, readInteger? word with
    | some text, _, _ => some (.time text)
    | none, some x, _ => some (.float x)
    | none, none, some n => some (.integer n)
    | none, none, none => none

end TokenGrammar.Toml
