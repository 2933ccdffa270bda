import TokenGrammar.Decimal.Binary64

/-!
# TOML documents

A TOML text is a tree of tables. How a table came about decides what may still be added to it.

* `Toml.insert?`: adds a key with its value;
* `Toml.openTable?`, `Toml.openTables?`: what a table's header does.
-/

namespace TokenGrammar

open Decimal (Binary64)

/-- How a table came about. -/
inductive TableKind where
  /-- It has a header of its own. -/
  | headed
  /-- It stands in the path of another table's header. -/
  | implied
  /-- It stands in the path of a key. -/
  | dotted
  /-- It is written as a value, and nothing may be added. -/
  | closed
deriving DecidableEq, Repr

/-- A TOML value. -/
inductive Toml where
  | string (s : String)
  | integer (n : Int64)
  | float (x : Binary64)
  | boolean (b : Bool)
  /-- A date, a time of day or both, as a text. -/
  | time (text : String)
  | array (items : List Toml)
  /-- Tables that have a header each, the last one first. -/
  | tables (items : List Toml)
  | table (kind : TableKind) (entries : List (String × Toml))
deriving Repr, Inhabited

namespace Toml

/-- A table without entries. -/
def emptyTable (kind : TableKind) : Toml := .table kind []

/-- The entries with one of them set. -/
def setEntry (name : String) (value : Toml) : List (String × Toml) → List (String × Toml)
  | [] => [(name, value)]
  | (key, old) :: rest =>
    if key = name then (name, value) :: rest else (key, old) :: setEntry name value rest

/-- Changes what `change` makes of a table; of tables with a header each, the last one. -/
def changeTable? (change : TableKind → List (String × Toml) → Option Toml) : Toml → Option Toml
  | .table .closed _ => none
  | .table kind entries => change kind entries
  | .tables (.table kind entries :: rest) => do return .tables ((← change kind entries) :: rest)
  | _ => none

/-- Changes the table at a path, which is made if it is not there. A path of a key does not go
through a table that has a header. -/
def changeAt? (isKey : Bool) (change : TableKind → List (String × Toml) → Option Toml) :
    List String → Toml → Option Toml
  | [], t => changeTable? change t
  | name :: path, t =>
    changeTable? (fun kind entries => do
      let inner := (entries.lookup name).getD (emptyTable (if isKey then .dotted else .implied))
      let isBarred : Bool := match inner with
        | .table kind _ => isKey && kind = .headed
        | _ => false
      if isBarred then none
      else return .table kind (setEntry name (← changeAt? isKey change path inner) entries)) t

/-- Adds a key with its value. The path of a key leads through tables of keys only, and no key is
given twice. -/
def insert? (t : Toml) (path : List String) (name : String) (value : Toml) : Option Toml :=
  changeAt? true (fun kind entries =>
    if (kind = .dotted) ≠ !path.isEmpty ∨ (entries.lookup name).isSome then none
    else some (.table kind (setEntry name value entries))) path t

/-- Gives a table its header; it has none yet. -/
def openTable? (t : Toml) (path : List String) (name : String) : Option Toml :=
  changeAt? false (fun kind entries =>
    match (entries.lookup name).getD (emptyTable .implied) with
    | .table .implied inner => some (.table kind (setEntry name (.table .headed inner) entries))
    | _ => none) path t

/-- Adds a table to those that have a header each. -/
def openTables? (t : Toml) (path : List String) (name : String) : Option Toml :=
  changeAt? false (fun kind entries =>
    match (entries.lookup name).getD (.tables []) with
    | .tables items =>
      some (.table kind (setEntry name (.tables (emptyTable .headed :: items)) entries))
    | _ => none) path t

end Toml

end TokenGrammar
