import TokenGrammar.Error
import TokenGrammar.Text.WhiteSpace

/-!
# How many values an argument takes

A declared count is either exact or one of the open ones `?`, `*` and `+`. Where a count is
optional, an undeclared one means exactly one value that is stored as a scalar; `exactly 1` stores
a list.
-/

namespace TokenGrammar

/-- A declared count of values. -/
inductive Nargs where
  | exactly (n : UInt64)
  /-- At most one, written `?`. -/
  | optional
  /-- Any number, written `*`. -/
  | zeroOrMore
  /-- At least one, written `+`. -/
  | oneOrMore
deriving DecidableEq, Repr

/-- The least and the greatest count of values; no greatest one means that there is no bound. -/
structure Bounds where
  least : Nat
  most : Option Nat
deriving DecidableEq, Repr

/-- Whether one more value may follow `count` values. -/
def Bounds.allowsMore (b : Bounds) (count : Nat) : Bool :=
  match b.most with
  | some most => count < most
  | none => true

namespace Nargs

/-- The bounds of a declared count. -/
def bounds : Nargs → Bounds
  | .exactly n => ⟨n.toNat, some n.toNat⟩
  | .optional => ⟨0, some 1⟩
  | .zeroOrMore => ⟨0, none⟩
  | .oneOrMore => ⟨1, none⟩

/-- The bounds of an optional count: undeclared means exactly one. -/
def boundsOf : Option Nargs → Bounds
  | some nargs => nargs.bounds
  | none => ⟨1, some 1⟩

/-- Whether a value is stored by itself: if the count is undeclared or zero. -/
def isScalar (nargs : Option Nargs) : Bool := nargs = none || nargs = some (.exactly 0)

/-- The count as it is written. -/
def text : Nargs → List Char
  | .exactly n => Decimal.digitChars n.toNat
  | .optional => ['?']
  | .zeroOrMore => ['*']
  | .oneOrMore => ['+']

/-- Reads a count: one of the three marks, or a number between white space. -/
def ofText (s : String) : Except GrammarError Nargs :=
  if s = "?" then .ok .optional
  else if s = "*" then .ok .zeroOrMore
  else if s = "+" then .ok .oneOrMore
  else
    match Decimal.readUInt64? (Text.trim s).toList with
    | some n => .ok (.exactly n)
    | none => .error (.invalidNargs s)

end Nargs

end TokenGrammar
