import TokenGrammar.Error

/-!
# Token buffers

The tokens of a command line and how many of them are consumed. Consumed tokens stay in place, so
that taking a consumption back is a move of the cursor. Indices count from the cursor; they are
words of 64 bits, and so is the sum of the cursor and an index. A sum that does not fit a word is no
position: the program ends there (`Error.overflow`).

* `remaining_of_take?`: the tokens that are taken and the ones that are left after it;
* `take?_eq_none_iff`: when no tokens are taken;
* `get?_zero`: the first token is read without overflow.
-/

namespace TokenGrammar

/-- Tokens with a cursor: the tokens before it are consumed. -/
structure TokenBuffer where
  tokens : List String
  cursor : Nat
deriving DecidableEq, Repr

namespace TokenBuffer

/-- A buffer of which nothing is consumed. -/
def ofTokens (tokens : List String) : TokenBuffer := ⟨tokens, 0⟩

/-- The tokens that are left. -/
def remaining (b : TokenBuffer) : List String := b.tokens.drop b.cursor

/-- How many tokens are left. -/
def size (b : TokenBuffer) : Nat := b.tokens.length - b.cursor

/-- Whether no tokens are left. -/
def isEmpty (b : TokenBuffer) : Bool := b.size = 0

/-- The token at a position, consumed or not. -/
def at? (b : TokenBuffer) (position : Nat) : Option String := b.tokens[position]?

/-- The position of the next token: the cursor, which in memory is a word. -/
def front (b : TokenBuffer) : Nat := (UInt64.ofNat b.cursor).toNat

/-- The next token, of which there may be none. -/
def head? (b : TokenBuffer) : Option String := b.at? b.front

/-- The position of the token with an index from the cursor. -/
def position (b : TokenBuffer) (index : UInt64) : Except Error Nat :=
  if b.front + index.toNat < UInt64.size then .ok (b.front + index.toNat) else .error .overflow

/-- The token with an index from the cursor. -/
def get? (b : TokenBuffer) (index : UInt64) : Except Error (Option String) :=
  (b.position index).map b.at?

/-- Consumes `n` tokens and gives them, unless fewer are left. -/
def take? (b : TokenBuffer) (n : Nat) : Option (List String × TokenBuffer) :=
  if b.size < n then none else some (b.remaining.take n, { b with cursor := b.cursor + n })

/-- Replaces the token at a position; beyond the end nothing changes. -/
def replace (b : TokenBuffer) (position : Nat) (token : String) : TokenBuffer :=
  { b with tokens := b.tokens.set position token }

/-- Moves the cursor back and puts back replaced tokens, of several at one position the first. -/
def rewind (b : TokenBuffer) (cursor : Nat) (spellings : List (Nat × String)) : TokenBuffer :=
  { spellings.foldr (fun (position, token) b => b.replace position token) b with cursor }

@[simp]
theorem remaining_ofTokens (tokens : List String) : (ofTokens tokens).remaining = tokens := rfl

@[simp]
theorem size_ofTokens (tokens : List String) : (ofTokens tokens).size = tokens.length := rfl

theorem length_remaining (b : TokenBuffer) : b.remaining.length = b.size := by
  simp [remaining, size]

theorem isEmpty_iff (b : TokenBuffer) : b.isEmpty = true ↔ b.remaining = [] := by
  rw [isEmpty, decide_eq_true_iff, ← b.length_remaining, List.length_eq_zero_iff]

/-- The next token has a position whatever the cursor is. -/
@[simp]
theorem position_zero (b : TokenBuffer) : b.position 0 = .ok b.front :=
  if_pos (UInt64.toNat_lt_size _)

@[simp]
theorem get?_zero (b : TokenBuffer) : b.get? 0 = .ok b.head? := by
  rw [get?, position_zero]
  rfl

/-- Nothing is taken just where fewer tokens are left. -/
theorem take?_eq_none_iff (b : TokenBuffer) (n : Nat) : b.take? n = none ↔ b.size < n := by
  simp [take?]

/-- The tokens that are taken stand in front of the ones that are left. -/
theorem remaining_of_take? {b rest : TokenBuffer} {n : Nat} {taken : List String}
    (h : b.take? n = some (taken, rest)) : b.remaining = taken ++ rest.remaining := by
  simp only [take?, Option.ite_none_left_eq_some, Option.some.injEq, Prod.mk.injEq] at h
  obtain ⟨_, rfl, rfl⟩ := h
  rw [remaining, remaining, ← List.drop_drop, List.take_append_drop]

/-- As many tokens are taken as are asked for. -/
theorem size_of_take? {b rest : TokenBuffer} {n : Nat} {taken : List String}
    (h : b.take? n = some (taken, rest)) : rest.size + n = b.size := by
  simp only [take?, Option.ite_none_left_eq_some, Option.some.injEq, Prod.mk.injEq] at h
  obtain ⟨hn, rfl, rfl⟩ := h
  simp only [size] at *
  omega

@[simp]
theorem cursor_replace (b : TokenBuffer) (position : Nat) (token : String) :
    (b.replace position token).cursor = b.cursor := rfl

/-- Replacing a token changes it and no other. -/
theorem at?_replace (b : TokenBuffer) (position other : Nat) (token : String) :
    (b.replace position token).at? other =
      if other = position then (b.at? position).map fun _ => token else b.at? other := by
  simp only [at?, replace, List.getElem?_set]
  grind

end TokenBuffer

end TokenGrammar
