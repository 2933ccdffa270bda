import TokenGrammar.Error
import TokenGrammar.Savepoint

/-!
# The state of a parse

Tokens, attributes, the values that rules keep, and the open savepoints. Every change goes through
the operations of this module, which record what an open savepoint has to put back.

* tokens: `State.next?`, `State.respell`, `State.setToken`;
* attributes: `State.set`, `State.setFirst`, `State.append`, `State.extend`,
  `State.appendOrExtend`;
* savepoints: `State.save`, `State.dismiss`, `State.restore`, `State.attempt`, and
  `State.consumedTokens` for what was consumed since one was opened.

Recording changes savepoints only (`tokens_mapSavepoints` and its like), and writing an attribute
changes it and no other (`attribute?_set`).
-/

namespace TokenGrammar

/-- The state of a parse. The youngest savepoint comes first. -/
structure State where
  tokens : TokenBuffer
  attributes : Namespace
  scratch : Scratch
  savepoints : List Savepoint

/-- A step of a parse: it may fail, and leaves a state in either case. -/
abbrev Step (α : Type) := EStateM Error State α

namespace State

/-- The state at the start of a parse. -/
def start (tokens : List String) (attributes : Option Namespace) : State where
  tokens := .ofTokens tokens
  attributes := attributes.getD .empty
  scratch := .empty
  savepoints := []

/-- How many savepoints are open. -/
def depth (st : State) : Nat := st.savepoints.length

/-- The state with every savepoint changed. -/
def mapSavepoints (st : State) (f : Savepoint → Savepoint) : State :=
  { st with savepoints := st.savepoints.map f }

@[simp]
theorem tokens_mapSavepoints (st : State) (f : Savepoint → Savepoint) :
    (st.mapSavepoints f).tokens = st.tokens := rfl

@[simp]
theorem attributes_mapSavepoints (st : State) (f : Savepoint → Savepoint) :
    (st.mapSavepoints f).attributes = st.attributes := rfl

@[simp]
theorem scratch_mapSavepoints (st : State) (f : Savepoint → Savepoint) :
    (st.mapSavepoints f).scratch = st.scratch := rfl

@[simp]
theorem depth_mapSavepoints (st : State) (f : Savepoint → Savepoint) :
    (st.mapSavepoints f).depth = st.depth := by
  simp [depth, mapSavepoints]

/-! ## Recording before the first change -/

/-- Records the cursor in the savepoints that know nothing of the tokens. -/
def captureTokens (st : State) : State :=
  st.mapSavepoints fun sp =>
    { sp with tokens := some (sp.tokens.getD ⟨st.tokens.cursor, []⟩) }

/-- Records the attributes in the savepoints that do not know them. -/
def captureAttributes (st : State) : State :=
  st.mapSavepoints fun sp => { sp with attributes := some (sp.attributes.getD st.attributes) }

/-- Records the kept values in the savepoints that do not know them. -/
def captureScratch (st : State) : State :=
  st.mapSavepoints fun sp => { sp with scratch := some (sp.scratch.getD st.scratch) }

/-! ## Tokens -/

/-- The token with an index from the cursor. -/
def token? (st : State) (index : UInt64) : Except Error (Option String) := st.tokens.get? index

/-- Consumes `n` tokens, unless fewer are left. -/
def next? (st : State) (n : Nat) : Option (List String × State) :=
  (st.tokens.take? n).map fun (taken, rest) => (taken, { st.captureTokens with tokens := rest })

/-- Replaces the token at a position; beyond the end nothing changes. -/
def respell (st : State) (position : Nat) (token : String) : State :=
  match st.tokens.at? position with
  | none => st
  | some current =>
    let st := st.captureTokens.mapSavepoints fun sp =>
      { sp with tokens := sp.tokens.map (·.record position current) }
    { st with tokens := st.tokens.replace position token }

/-- Replaces a token that is not consumed, by its index from the cursor. -/
def setToken (st : State) (index : UInt64) (token : String) : Except Error State :=
  (st.tokens.position index).map (st.respell · token)

@[simp]
theorem token?_zero (st : State) : st.token? 0 = .ok st.tokens.head? := st.tokens.get?_zero

@[simp]
theorem setToken_zero (st : State) (token : String) :
    st.setToken 0 token = .ok (st.respell st.tokens.front token) := by
  rw [setToken, TokenBuffer.position_zero]
  rfl

theorem setToken_eq_ok {st st' : State} {index : UInt64} {token : String} :
    st.setToken index token = .ok st' ↔
      ∃ position, st.tokens.position index = .ok position ∧ st' = st.respell position token := by
  rw [setToken]
  cases st.tokens.position index <;> simp [Except.map, eq_comm]

/-! ## Attributes -/

/-- The value of an attribute. -/
def attribute? (st : State) (name : String) : Option Value := st.attributes.get? name

/-- Writes an attribute. -/
def set (st : State) (name : String) (value : Value) : State :=
  { st.captureAttributes with attributes := st.attributes.set name value }

@[simp]
theorem tokens_set (st : State) (name : String) (value : Value) :
    (st.set name value).tokens = st.tokens := rfl

@[simp]
theorem scratch_set (st : State) (name : String) (value : Value) :
    (st.set name value).scratch = st.scratch := rfl

@[simp]
theorem attributes_set (st : State) (name : String) (value : Value) :
    (st.set name value).attributes = st.attributes.set name value := rfl

@[simp]
theorem depth_set (st : State) (name : String) (value : Value) :
    (st.set name value).depth = st.depth :=
  depth_mapSavepoints st _

/-- Writing an attribute changes it and no other. -/
theorem attribute?_set (st : State) (name other : String) (value : Value) :
    (st.set name value).attribute? other =
      if other = name then some value else st.attribute? other :=
  st.attributes.get?_set name other value

/-- Writes the first item of a list, or a scalar; an empty list writes nothing. -/
def setFirst (st : State) (name : String) (value : Value) : State :=
  match value.toList with
  | [] => st
  | first :: _ => st.set name first

/-- The items of an attribute; there are none if it is missing. -/
def items (st : State) (name : String) : List Value :=
  ((st.attribute? name).map Value.toList).getD []

/-- Adds the value to the items of an attribute as one item. -/
def append (st : State) (name : String) (value : Value) : State :=
  st.set name (.list (st.items name ++ [value]))

/-- Adds the items of the value to the items of an attribute. -/
def extend (st : State) (name : String) (value : Value) : State :=
  st.set name (.list (st.items name ++ value.toList))

/-- Adds the items of a list of at most one item, and any longer list as one item. An empty text
counts as an empty list, every other scalar is one item. -/
def appendOrExtend (st : State) (name : String) (value : Value) : State :=
  match value with
  | .list items => if items.length ≤ 1 then st.extend name value else st.append name value
  | .str s => if s = "" then st.extend name (.list []) else st.append name value
  | _ => st.append name value

/-! ## Kept values -/

/-- The value kept under an owner and a key. -/
def fetch? (st : State) (owner : Owner) (key : String) : Option Value := st.scratch.get? owner key

/-- Keeps a value under an owner and a key. -/
def store (st : State) (owner : Owner) (key : String) (value : Value) : State :=
  { st.captureScratch with scratch := st.scratch.set owner key value }

/-- Keeping a value changes it and no other. -/
theorem fetch?_store (st : State) (owner o : Owner) (key k : String) (value : Value) :
    (st.store owner key value).fetch? o k =
      if o = owner ∧ k = key then some value else st.fetch? o k := rfl

/-! ## Savepoints -/

/-- Opens a savepoint. An owner has at most one open at a time. -/
def save (owner : Owner) : Step Handle := do
  let st ← get
  if st.savepoints.any (·.owner = owner) then
    throw (.grammar (.duplicateSavepoint owner))
  MonadState.set { st with savepoints := ⟨owner, none, none, none⟩ :: st.savepoints }
  return ⟨st.depth⟩

/-- Takes the savepoint with the handle off the stack, where it must be the youngest. -/
def pop (handle : Handle) : Step Savepoint := do
  let st ← get
  match st.savepoints with
  | sp :: rest =>
    if handle.depth = rest.length then
      MonadState.set { st with savepoints := rest }
      return sp
    else throw (.savepointOrder rest.length handle.depth)
  | [] => throw (.savepointOrder 0 handle.depth)

/-- The state with everything put back that the savepoint recorded. -/
def rollBack (st : State) (sp : Savepoint) : State :=
  { st with
    tokens := match sp.tokens with
      | some snapshot => st.tokens.rewind snapshot.cursor snapshot.spellings
      | none => st.tokens
    attributes := sp.attributes.getD st.attributes
    scratch := sp.scratch.getD st.scratch }

/-- Releases a savepoint and keeps every change since it was opened. -/
def dismiss (handle : Handle) : Step Unit := do
  let _ ← pop handle

/-- Releases a savepoint and takes back every change since it was opened. -/
def restore (handle : Handle) : Step Unit := do
  let sp ← pop handle
  modify (·.rollBack sp)

/-- Runs a step under a savepoint, which keeps the changes if the step matches and takes them back
otherwise. If the step fails, the savepoint stays open. -/
def attempt (owner : Owner) (step : Step Bool) : Step Bool := do
  let handle ← save owner
  if ← step then
    dismiss handle
    return true
  else
    restore handle
    return false

/-- The tokens consumed since the savepoint was opened, as they were spelled then. If none was
consumed, the first token still counts when the one behind the cursor differs from it. -/
def consumedTokens (st : State) (handle : Handle) : List String :=
  let snapshot? := do
    let sp ← st.savepoints.reverse[handle.depth]?
    sp.tokens
  match snapshot? with
  | none => []
  | some snapshot =>
    let spelling? (position : Nat) : Option String :=
      snapshot.firstSpelling? position <|> st.tokens.at? position
    match spelling? snapshot.cursor with
    | none => []
    | some leading =>
      let consumed := st.tokens.cursor - snapshot.cursor
      let behind := st.tokens.at? (st.tokens.cursor + 1)
      let count := if consumed = 0 ∧ behind.any (· ≠ leading) then 1 else consumed
      (List.range' snapshot.cursor count).filterMap spelling?

/-- The attributes at the end of a parse, where no savepoint is open and no token is left. -/
def finish (st : State) : Except Error Namespace :=
  if st.savepoints ≠ [] then .error (.orphanedSavepoints st.depth)
  else if st.tokens.size ≠ 0 then .error (.unparsedTokens st.tokens.remaining)
  else .ok st.attributes

end State

end TokenGrammar
