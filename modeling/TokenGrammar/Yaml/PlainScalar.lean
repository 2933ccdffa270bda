import TokenGrammar.Decimal.Reader
import TokenGrammar.Document
import TokenGrammar.Text.RangeTable
import TokenGrammar.Yaml.Token

/-!
# What a scalar stands for

A plain scalar is null, a flag, a number or a text, by how it is written. A tag may ask for one of
these; a tag of the file's own makes a scalar unreadable by itself.

* `plainAtom?`: what a plain scalar is;
* `scalarOf`: a scalar in all its readings.
-/

namespace TokenGrammar.Yaml

open Decimal (Binary64)

/-- Whether the text is one of the spellings of null, other than nothing at all. -/
def isNullWord (text : String) : Bool := ["~", "null", "Null", "NULL"].contains text

/-- The flag that a text spells. -/
def flag? (text : String) : Option Bool :=
  if ["true", "True", "TRUE"].contains text then some true
  else if ["false", "False", "FALSE"].contains text then some false
  else none

/-! ## Numbers -/

/-- The number that digits spell in a base. -/
def baseValue? (base : Nat) (digits : List Char) : Option Nat :=
  if !digits.isEmpty && digits.all (fun c => (Text.hexDigit? c).any (· < base)) then
    some (digits.foldl (fun n c => base * n + (Text.hexDigit? c).getD 0) 0)
  else none

/-- Reads a number without a sign, in base ten, sixteen, eight or two. In base ten no zero stands
in front. -/
def magnitude? : List Char → Option Nat
  | '0' :: 'x' :: digits => baseValue? 16 digits
  | '0' :: 'o' :: digits => baseValue? 8 digits
  | '0' :: 'b' :: digits => baseValue? 2 digits
  | '0' :: _ :: _ => none
  | digits => baseValue? 10 digits

/-- How many numbers have 128 bits. -/
def wideSize : Nat := UInt64.size * UInt64.size

/-- What an integer is: within 64 bits itself, and within 128 bits unreadable. A larger one is no
integer. -/
def integer? (text : List Char) : Option (Option Atom) :=
  let (negative, body) := Decimal.readSign text
  (magnitude? body).bind fun n =>
    if negative then
      match Decimal.toInt64? (-n) with
      | some m => some (some (.negative m))
      | none => if 2 * n ≤ wideSize then some none else none
    else
      match Decimal.toUInt64? n with
      | some m => some (some (.natural m))
      | none => if n < wideSize then some none else none

/-- Whether the text is digits with a zero in front, which are no number. -/
def isPadded (text : List Char) : Bool :=
  let (_, body) := Decimal.readSign text
  match body with
  | '0' :: c :: rest => (c :: rest).all Decimal.isDigit
  | _ => false

/-- The floating point number that a text spells. One that is too large is no number. -/
def float? (text : String) : Option Binary64 :=
  if [".inf", ".Inf", ".INF", "+.inf", "+.Inf", "+.INF"].contains text then some (.infinity false)
  else if ["-.inf", "-.Inf", "-.INF"].contains text then some (.infinity true)
  else if [".nan", ".NaN", ".NAN"].contains text then some (.nan false)
  else (Decimal.readFloat? text.toList).filter (·.isFinite)

/-- What a plain scalar is; nothing if it is an integer of more than 64 bits. -/
def plainAtom? (text : String) : Option Atom :=
  let cs := text.toList
  if text = "" ∨ isNullWord text then some .null
  else
    match flag? text, integer? cs, float? text with
    | some b, _, _ => some (.bool b)
    | none, some atom, _ => atom
    | none, none, some x => some (if isPadded cs then .text text else .float x)
    | none, none, none => some (.text text)

/-! ## Tags -/

/-- A tag that is known everywhere. -/
def commonTag (name : String) : String := "tag:yaml.org,2002:" ++ name

/-- The name in a tag of the file's own. -/
def localTag? (tag : Option String) : Option String :=
  tag.bind fun tag =>
    match tag.toList with
    | '!' :: name => some (.ofList name)
    | _ => none

/-- What a scalar with a tag is. Tags other than those for flags, numbers and null leave a text. -/
def taggedAtom? (tag text : String) : Option Atom :=
  if tag = commonTag "bool" then (flag? text).map .bool
  else if tag = commonTag "int" then (integer? text.toList).join
  else if tag = commonTag "float" then (float? text).map .float
  else if tag = commonTag "null" then if isNullWord text then some .null else none
  else some (.text text)

/-- What a scalar is by itself. -/
def atom? (tag : Option String) (style : Style) (text : String) : Option Atom :=
  match tag, localTag? tag with
  | _, some _ => none
  | some tag, none => taggedAtom? tag text
  | none, none => if style = .plain then plainAtom? text else some (.text text)

/-- A scalar of YAML in all its readings. Where a text is asked for, any scalar is its text; a flag
is written plainly, or in a block that is tagged as one. One of several names is written as such,
or as the tag of nothing. -/
def scalarOf (tag : Option String) (style : Style) (text : String) : Scalar :=
  let isPlain := style = .plain
  { atom := atom? tag style text
    text := some text
    flag :=
      if isPlain ∨ (style = .literal ∧ tag = some (commonTag "bool")) then flag? text else none
    choice :=
      match localTag? tag with
      | some name => if isPlain ∧ (text = "" ∨ isNullWord text) then some name else none
      | none => some text
    isMissing :=
      isPlain && match tag with
        | some tag => tag = commonTag "null" && isNullWord text
        | none => text = "" || isNullWord text
    isEmptyCollection := isPlain && text = "" }

end TokenGrammar.Yaml
