import TokenGrammar.Decimal.Binary64

/-!
# Values

What an attribute holds: a boolean, an integer of 64 bits, a double precision number, a text, or a
list of values.

* `Value.toList`: a value as the list that it stands for, a scalar as a list of one;
* `Value.truthy`: whether a captured value is worth recording;
* `Value.same`: equality that follows the comparison of numbers.
-/

namespace TokenGrammar

open Decimal (Binary64)

/-- An attribute value. -/
inductive Value where
  | bool (b : Bool)
  | int (n : Int64)
  | float (x : Binary64)
  | str (s : String)
  | list (items : List Value)
deriving Repr, Inhabited

namespace Value

mutual

/-- Equality of values is decidable: floating point numbers are equal if their bits are. -/
def decEq : (v w : Value) → Decidable (v = w)
  | .bool a, .bool b => if h : a = b then isTrue (h ▸ rfl) else isFalse (by simp [h])
  | .int a, .int b => if h : a = b then isTrue (h ▸ rfl) else isFalse (by simp [h])
  | .float a, .float b => if h : a = b then isTrue (h ▸ rfl) else isFalse (by simp [h])
  | .str a, .str b => if h : a = b then isTrue (h ▸ rfl) else isFalse (by simp [h])
  | .list as, .list bs =>
    match decEqList as bs with
    | isTrue h => isTrue (h ▸ rfl)
    | isFalse h => isFalse (by simpa using h)
  | .bool _, .int _ | .bool _, .float _ | .bool _, .str _ | .bool _, .list _
  | .int _, .bool _ | .int _, .float _ | .int _, .str _ | .int _, .list _
  | .float _, .bool _ | .float _, .int _ | .float _, .str _ | .float _, .list _
  | .str _, .bool _ | .str _, .int _ | .str _, .float _ | .str _, .list _
  | .list _, .bool _ | .list _, .int _ | .list _, .float _ | .list _, .str _ =>
    isFalse (by simp)

/-- Equality of lists of values is decidable. -/
def decEqList : (vs ws : List Value) → Decidable (vs = ws)
  | [], [] => isTrue rfl
  | [], _ :: _ | _ :: _, [] => isFalse (by simp)
  | v :: vs, w :: ws =>
    match decEq v w, decEqList vs ws with
    | isTrue h, isTrue h' => isTrue (h ▸ h' ▸ rfl)
    | isFalse h, _ => isFalse (by simp [h])
    | _, isFalse h => isFalse (by simp [h])

end

instance : DecidableEq Value := decEq

/-- The text, if the value is one. -/
def asText? : Value → Option String
  | .str s => some s
  | _ => none

/-- The boolean, if the value is one. -/
def asBool? : Value → Option Bool
  | .bool b => some b
  | _ => none

/-- The integer, if the value is one. -/
def asInt? : Value → Option Int64
  | .int n => some n
  | _ => none

/-- The floating point number, if the value is one. -/
def asFloat? : Value → Option Binary64
  | .float x => some x
  | _ => none

/-- The items, if the value is a list. -/
def asList? : Value → Option (List Value)
  | .list items => some items
  | _ => none

/-- False, zero, the empty text and the empty list are not truthy; all else is. -/
def truthy : Value → Bool
  | .bool b => b
  | .int n => n ≠ 0
  | .float x => !x.isZero
  | .str s => s ≠ ""
  | .list items => !items.isEmpty

/-- The items of a list; a scalar stands for the list of itself. -/
def toList : Value → List Value
  | .list items => items
  | v => [v]

/-- A list of texts as a value. -/
def ofTexts (texts : List String) : Value := .list (texts.map .str)

mutual

/-- Equality that compares floating point numbers by value. -/
def same : Value → Value → Bool
  | .float x, .float y => x.same y
  | .list vs, .list ws => sameList vs ws
  | .bool a, .bool b => a = b
  | .int a, .int b => a = b
  | .str a, .str b => a = b
  | _, _ => false

/-- Equality of lists, item by item. -/
def sameList : List Value → List Value → Bool
  | [], [] => true
  | v :: vs, w :: ws => same v w && sameList vs ws
  | _, _ => false

end

@[simp]
theorem toList_list (items : List Value) : (list items).toList = items := rfl

@[simp]
theorem toList_str (s : String) : (str s).toList = [str s] := rfl

end Value

end TokenGrammar
