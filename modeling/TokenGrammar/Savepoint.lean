import TokenGrammar.Namespace
import TokenGrammar.Owner
import TokenGrammar.TokenBuffer

/-!
# Savepoints

A savepoint starts without a copy of anything. What is about to change for the first time while it
is open, the tokens, the attributes or the counters, is recorded in it before. So taking back costs
what changed, and not the size of the state.

* `Scratch.get?_set`: what keeping one value does to each;
* `TokenSnapshot.firstSpelling?_record`: the first spelling that is recorded stays.
-/

namespace TokenGrammar

/-- Values that rules keep for themselves during a parse, by owner and key. -/
structure Scratch where
  get? : Owner → String → Option Value

namespace Scratch

/-- Nothing is kept yet. -/
def empty : Scratch := ⟨fun _ _ => none⟩

/-- Keeps a value under an owner and a key. -/
def set (s : Scratch) (owner : Owner) (key : String) (value : Value) : Scratch :=
  ⟨fun o k => if o = owner ∧ k = key then some value else s.get? o k⟩

/-- Keeping a value changes it and no other. -/
theorem get?_set (s : Scratch) (owner o : Owner) (key k : String) (value : Value) :
    (s.set owner key value).get? o k =
      if o = owner ∧ k = key then some value else s.get? o k := rfl

end Scratch

/-- The token buffer when it was first touched: the cursor, and the first spelling of every token
that was replaced since. -/
structure TokenSnapshot where
  cursor : Nat
  spellings : List (Nat × String)
deriving DecidableEq, Repr

namespace TokenSnapshot

/-- The first spelling of the token at a position, if the token was replaced. -/
def firstSpelling? (s : TokenSnapshot) (position : Nat) : Option String :=
  s.spellings.lookup position

/-- Records the spelling of a token that is about to be replaced. -/
def record (s : TokenSnapshot) (position : Nat) (token : String) : TokenSnapshot :=
  if (s.firstSpelling? position).isSome then s
  else { s with spellings := s.spellings ++ [(position, token)] }

@[simp]
theorem cursor_record (s : TokenSnapshot) (position : Nat) (token : String) :
    (s.record position token).cursor = s.cursor := by
  rw [record]
  split <;> rfl

/-- Of two spellings of one token the first one stays; the other tokens are not concerned. -/
theorem firstSpelling?_record (s : TokenSnapshot) (position other : Nat) (token : String) :
    (s.record position token).firstSpelling? other =
      if other = position then some ((s.firstSpelling? position).getD token)
      else s.firstSpelling? other := by
  cases h : s.firstSpelling? position with
  | some first => by_cases hp : other = position <;> simp [record, hp, h]
  | none =>
    rw [firstSpelling?] at h
    by_cases hp : other = position
    · simp [record, firstSpelling?, hp, List.lookup_append, h]
    · simp [record, firstSpelling?, h, hp, List.lookup_append, List.lookup_cons, beq_false_of_ne hp]

end TokenSnapshot

/-- What an open savepoint holds of the state at its opening; what is missing has not changed. -/
structure Savepoint where
  owner : Owner
  tokens : Option TokenSnapshot := none
  attributes : Option Namespace := none
  scratch : Option Scratch := none

/-- An open savepoint, by its depth among all that are open. -/
structure Handle where
  depth : Nat
deriving DecidableEq, Repr

end TokenGrammar
