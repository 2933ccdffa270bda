import TokenGrammar.Nargs
import TokenGrammar.Namespace

/-!
# Validators

What is checked and mended once all tokens are consumed, in the order of declaration: attributes
that are required, counts of values, defaults, and attributes that are not for the result.
-/

namespace TokenGrammar

/-- A check or a change of the finished attributes. -/
inductive Validator where
  /-- Fails if the attribute is missing. -/
  | require (dest : String) (context : Option String)
  /-- Sets the attribute if it is missing. -/
  | default (dest : String) (value : Value)
  /-- Removes the attribute. -/
  | remove (dest : String)
  /-- Fails if the count of values is out of bounds; a missing attribute passes. -/
  | count (dest : String) (bounds : Bounds) (context : Option String)
deriving DecidableEq, Repr

namespace Validator

/-- Whether the count of values is in bounds. -/
def checkCount (dest : String) (bounds : Bounds) (context : Option String) (values : List Value) :
    Except Error Unit :=
  if values.length < bounds.least then
    .error (.notEnoughValues dest bounds.least values context)
  else
    match bounds.most with
    | some most =>
      if most < values.length then .error (.tooManyValues dest most values context) else .ok ()
    | none => .ok ()

/-- The attributes after a validator, or why it failed. A context that repeats the name of a
missing attribute is not worth mentioning. -/
def apply : Validator → Namespace → Except Error Namespace
  | .require dest context, ns =>
    if ns.contains dest then .ok ns
    else .error (.requiredAttributeMissing dest (context.filter (· ≠ dest)))
  | .default dest value, ns => .ok (if ns.contains dest then ns else ns.set dest value)
  | .remove dest, ns => .ok (ns.remove dest)
  | .count dest bounds context, ns =>
    match ns.get? dest with
    | none => .ok ns
    | some value => (checkCount dest bounds context value.toList).map fun _ => ns

end Validator

end TokenGrammar
