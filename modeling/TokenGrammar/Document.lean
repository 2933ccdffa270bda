import TokenGrammar.Json
import TokenGrammar.Namespace
import TokenGrammar.Nargs

/-!
# Documents

The text of a file as a tree, whatever its notation. A field of a file asks for a kind of content,
and notations differ in what they accept for it. So a scalar carries its readings: what it is by
itself, as a text, as a flag, and whether it stands for nothing.

* `Document.ofJson`: the tree of a JSON text;
* `Document.record?`: the fields of a record, by name;
* `Document.value?`, `Document.nargs?`: values and counts.
-/

namespace TokenGrammar

open Decimal (Binary64)

/-- A scalar that says by itself what it is. -/
inductive Atom where
  | null
  | bool (b : Bool)
  | natural (n : UInt64)
  | negative (n : Int64)
  | float (x : Binary64)
  | text (s : String)
deriving DecidableEq, Repr

/-- A scalar in all its readings. -/
structure Scalar where
  /-- What the scalar is by itself; nothing if it cannot be read so. -/
  atom : Option Atom
  /-- The scalar where a text is asked for. -/
  text : Option String
  /-- The scalar where a flag is asked for. -/
  flag : Option Bool
  /-- The scalar where one of several names is asked for. -/
  choice : Option String
  /-- Whether an optional field counts as missing. -/
  isMissing : Bool
  /-- Whether the scalar stands for a collection without items. -/
  isEmptyCollection : Bool
deriving Repr

/-- A tree of scalars, sequences and mappings. -/
inductive Document where
  | scalar (s : Scalar)
  /-- A sequence may also stand for a record, as its fields in order; and it may carry a mark that
  leaves it unreadable by itself. -/
  | sequence (items : List Document) (isRecord isPlain : Bool)
  /-- A mapping may also stand for one of several names. -/
  | mapping (entries : List (Document × Document)) (choice : Option String)
deriving Repr, Inhabited

namespace Atom

/-- A scalar as a value: an integer beyond 63 bits is a floating point number. -/
def value? : Atom → Option Value
  | .null => none
  | .bool b => some (.bool b)
  | .natural n =>
    match Decimal.toInt64? n.toNat with
    | some n => some (.int n)
    | none => some (.float (Decimal.nearest false n.toNat 0))
  | .negative n => some (.int n)
  | .float x => some (.float x)
  | .text s => some (.str s)

/-- A scalar as a count of values. -/
def nargs? : Atom → Option Nargs
  | .natural n => some (.exactly n)
  | .negative n => if n = 0 then some (.exactly 0) else none
  | .text s => (Nargs.ofText s).toOption
  | _ => none

end Atom

namespace Scalar

/-- A scalar that is what it is in every reading, as in JSON. -/
def ofAtom (a : Atom) : Scalar where
  atom := some a
  text := match a with
    | .text s => some s
    | _ => none
  flag := match a with
    | .bool b => some b
    | _ => none
  choice := match a with
    | .text s => some s
    | _ => none
  isMissing := a = .null
  isEmptyCollection := false

end Scalar

namespace Document

/-- The tree of a JSON number. -/
def ofJsonNumber : JsonNumber → Atom
  | .natural n => .natural n
  | .negative n => .negative n
  | .float x => .float x

mutual

/-- The tree of a JSON text. An object with one member that is null stands for its name. -/
def ofJson : Json → Document
  | .null => .scalar (.ofAtom .null)
  | .bool b => .scalar (.ofAtom (.bool b))
  | .number n => .scalar (.ofAtom (ofJsonNumber n))
  | .string s => .scalar (.ofAtom (.text s))
  | .array items => .sequence (ofJsonItems items) true true
  | .object members =>
    .mapping (ofJsonMembers members) <|
      match members with
      | [(name, .null)] => some name
      | _ => none

/-- The trees of the items of an array. -/
def ofJsonItems : List Json → List Document
  | [] => []
  | json :: rest => ofJson json :: ofJsonItems rest

/-- The trees of the members of an object. -/
def ofJsonMembers : List (String × Json) → List (Document × Document)
  | [] => []
  | (name, json) :: rest => (.scalar (.ofAtom (.text name)), ofJson json) :: ofJsonMembers rest

end

/-- The text of a scalar. -/
def text? : Document → Option String
  | .scalar s => s.text
  | _ => none

/-- The flag that a scalar is. -/
def flag? : Document → Option Bool
  | .scalar s => s.flag
  | _ => none

/-- One of several names. -/
def choice? : Document → Option String
  | .scalar s => s.choice
  | .mapping _ choice => choice
  | .sequence .. => none

/-- Whether an optional field counts as missing. -/
def isMissing : Document → Bool
  | .scalar s => s.isMissing
  | _ => false

/-- An optional field: what `read` gives, unless it counts as missing. -/
def optional? (read : Document → Option α) (d : Document) : Option (Option α) :=
  if d.isMissing then some none else (read d).map some

/-- The items of a sequence, each read by `read`. -/
def list? (read : Document → Option α) : Document → Option (List α)
  | .sequence items _ _ => items.mapM read
  | .scalar s => if s.isEmptyCollection then some [] else none
  | .mapping .. => none

/-- A list of texts. -/
def texts? : Document → Option (List String) := list? text?

mutual

/-- A scalar or a list of values, each by itself. -/
def value? : Document → Option Value
  | .scalar s => s.atom.bind Atom.value?
  | .sequence items _ isPlain => if isPlain then (values? items).map .list else none
  | .mapping .. => none

/-- Values, one by one. -/
def values? : List Document → Option (List Value)
  | [] => some []
  | d :: ds =>
    match value? d, values? ds with
    | some v, some vs => some (v :: vs)
    | _, _ => none

end

/-- A count of values: a number, or a text that stands for one. -/
def nargs? : Document → Option Nargs
  | .scalar s => s.atom.bind Atom.nargs?
  | _ => none

/-- A text by itself. -/
def plainText? : Document → Option String
  | .scalar s =>
    match s.atom with
    | some (.text text) => some text
    | _ => none
  | _ => none

/-- One text, a list of them, or null for none. -/
def oneOrMany? : Document → Option (List String)
  | .scalar s =>
    match s.atom with
    | some .null => some []
    | some (.text text) => some [text]
    | _ => none
  | .sequence items _ isPlain => if isPlain then items.mapM plainText? else none
  | .mapping .. => none

/-- An entry of a mapping from texts to values. -/
def attribute? (entry : Document × Document) : Option (String × Value) := do
  return (← entry.1.text?, ← entry.2.value?)

/-- A mapping from texts to values; of the entries with one name the last one counts. -/
def namespace? : Document → Option Namespace
  | .mapping entries _ => (entries.mapM attribute?).map Namespace.ofList
  | .scalar s => if s.isEmptyCollection then some Namespace.empty else none
  | .sequence .. => none

/-! ## Records -/

/-- The fields of a record that are given, each at most once and none but the known ones. -/
def fields? (known : List String) : List (Document × Document) → Option (List (String × Document))
  | [] => some []
  | (name, value) :: rest =>
    match name.text?, fields? known rest with
    | some name, some fields =>
      if name ∈ known ∧ (fields.lookup name).isNone then some ((name, value) :: fields) else none
    | _, _ => none

/-- The fields of a record: by name, or in order where a sequence may stand for a record; `whole`
asks such a sequence to have every field. -/
def record? (known : List String) (whole : Bool) : Document → Option (List (String × Document))
  | .mapping entries _ => fields? known entries
  | .sequence items isRecord _ =>
    if !isRecord || known.length < items.length || (whole && items.length < known.length) then none
    else some (known.zip items)
  | .scalar s => if s.isEmptyCollection then some [] else none

/-- A field of a record, or `default` where it is not given. -/
def field? (fields : List (String × Document)) (name : String) (read : Document → Option α)
    (default : α) : Option α :=
  match fields.lookup name with
  | some d => read d
  | none => some default

/-- An optional field of a record. -/
def option? (fields : List (String × Document)) (name : String) (read : Document → Option α) :
    Option (Option α) :=
  field? fields name (optional? read) none

end Document

end TokenGrammar
