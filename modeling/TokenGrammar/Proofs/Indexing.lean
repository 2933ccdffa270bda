import TokenGrammar.Proofs.Termination

/-!
# Indices

An index counts from the cursor, but what is computed of it is a position among all tokens, in words
of 64 bits. The cursor never leaves the tokens, so for every token that is left the sum is a word.
An index for which it is none is not looked up: the program ends there.

* `TokenBuffer.between`: a buffer by what is consumed and what is left of it. As far as the sum is a
  word, reading and replacing are those of the list that is left (`TokenBuffer.Valid.get?_of_lt`,
  `TokenBuffer.Valid.replace_add`), and above there is no position
  (`TokenBuffer.Valid.position_of_le`);
* `TokenBuffer.Reached`: a buffer after any operations;
* `Script.operates`: a caller of a state works through its operations, whatever it makes of their
  answers. So `State.valid_performAll` bounds the cursor in every state that a caller comes to;
* `TokenBuffer.Indexed`, `State.Indexed`: what indices and counts do at a buffer and at a state;
* `indexed_of_length`: they do so after any operations.
-/

namespace TokenGrammar

/-! ## What is consumed and what is left -/

namespace TokenBuffer

/-- The tokens that are consumed. -/
def consumed (b : TokenBuffer) : List String := b.tokens.take b.cursor

/-- The buffer with its cursor between tokens that are consumed and tokens that are left. -/
def between (consumed remaining : List String) : TokenBuffer :=
  ⟨consumed ++ remaining, consumed.length⟩

theorem consumed_append_remaining (b : TokenBuffer) : b.consumed ++ b.remaining = b.tokens :=
  List.take_append_drop ..

@[simp]
theorem consumed_between (consumed remaining : List String) :
    (between consumed remaining).consumed = consumed :=
  List.take_left

@[simp]
theorem remaining_between (consumed remaining : List String) :
    (between consumed remaining).remaining = remaining :=
  List.drop_left

namespace Valid

variable {b : TokenBuffer} {index : UInt64}

theorem length_consumed (h : b.Valid) : b.consumed.length = b.cursor :=
  List.length_take_of_le h.cursor

/-! ## Positions in words -/

/-- No count up to what is left leads out of the words. -/
theorem add_lt (h : b.Valid) {n : Nat} (hn : n ≤ b.size) : b.cursor + n < UInt64.size := by
  have hcursor := h.cursor
  have hlength := h.length
  rw [size] at hn
  omega

theorem toNat_cursor (h : b.Valid) : (UInt64.ofNat b.cursor).toNat = b.cursor := h.front

theorem toNat_length (h : b.Valid) : (UInt64.ofNat b.tokens.length).toNat = b.tokens.length :=
  Nat.mod_eq_of_lt h.length

/-- In words, too, the length less the cursor is how many tokens are left. -/
theorem toNat_length_sub_cursor (h : b.Valid) :
    (UInt64.ofNat b.tokens.length - UInt64.ofNat b.cursor).toNat = b.size := by
  have hle : UInt64.ofNat b.cursor ≤ UInt64.ofNat b.tokens.length := by
    rw [UInt64.le_iff_toNat_le, h.toNat_cursor, h.toNat_length]
    exact h.cursor
  rw [UInt64.toNat_sub_of_le _ _ hle, h.toNat_cursor, h.toNat_length, size]

theorem position_of_lt (h : b.Valid) (hsum : b.cursor + index.toNat < UInt64.size) :
    b.position index = .ok (b.cursor + index.toNat) := by
  rw [position, h.front, if_pos hsum]

/-- A sum that is no word stands for no position. -/
theorem position_of_le (h : b.Valid) (hsum : UInt64.size ≤ b.cursor + index.toNat) :
    b.position index = .error .overflow := by
  rw [position, h.front, if_neg (Nat.not_lt.mpr hsum)]

/-! ## Reading and replacing -/

theorem get?_of_lt (h : b.Valid) (hsum : b.cursor + index.toNat < UInt64.size) :
    b.get? index = .ok b.remaining[index.toNat]? := by
  rw [get?, h.position_of_lt hsum, remaining, List.getElem?_drop]
  rfl

theorem get?_of_le (h : b.Valid) (hsum : UInt64.size ≤ b.cursor + index.toNat) :
    b.get? index = .error .overflow := by
  rw [get?, h.position_of_le hsum]
  rfl

theorem replace_add (h : b.Valid) (n : Nat) (token : String) :
    b.replace (b.cursor + n) token = between b.consumed (b.remaining.set n token) := by
  have hbehind : b.consumed.length ≤ b.cursor + n := by
    rw [h.length_consumed]
    exact Nat.le_add_right ..
  rw [TokenBuffer.replace, between, ← b.consumed_append_remaining,
    List.set_append_right _ _ hbehind, h.length_consumed, Nat.add_sub_cancel_left]

/-- Taking moves tokens from what is left to what is consumed. -/
theorem take?_of_le (h : b.Valid) {n : Nat} (hn : n ≤ b.size) :
    b.take? n = some (b.remaining.take n,
      between (b.consumed ++ b.remaining.take n) (b.remaining.drop n)) := by
  have hlength : (b.remaining.take n).length = n :=
    List.length_take_of_le (by rw [length_remaining]; exact hn)
  rw [take?, if_neg (Nat.not_lt.mpr hn), between, List.length_append, h.length_consumed, hlength,
    List.append_assoc, List.take_append_drop, consumed_append_remaining]

end Valid

end TokenBuffer

/-! ## Buffers after any operations -/

/-- A buffer that operations lead to from tokens of which none is consumed. The cursor is moved back
only to where it stood before. -/
inductive TokenBuffer.Reached (tokens : List String) : TokenBuffer → Prop where
  | start : Reached tokens (.ofTokens tokens)
  | take {b rest : TokenBuffer} {n : Nat} {taken : List String} (h : Reached tokens b)
      (step : b.take? n = some (taken, rest)) : Reached tokens rest
  | replace {b : TokenBuffer} (h : Reached tokens b) (position : Nat) (token : String) :
      Reached tokens (b.replace position token)
  | rewind {b earlier : TokenBuffer} (h : Reached tokens b) (back : Reached tokens earlier)
      (spellings : List (Nat × String)) : Reached tokens (b.rewind earlier.cursor spellings)

namespace TokenBuffer

theorem Forward.cursor_le {tokens : List String} {b : TokenBuffer}
    (h : (ofTokens tokens).Forward b) : b.cursor ≤ b.tokens.length := by
  obtain hzero | hmove := Nat.eq_zero_or_pos b.cursor
  · rw [hzero]
    exact Nat.zero_le _
  · exact h.inside hmove

/-- A buffer with as many tokens as there were, and its cursor within them, is one in memory. -/
theorem Forward.valid {tokens : List String} {b : TokenBuffer} (h : (ofTokens tokens).Forward b)
    (hlength : tokens.length < UInt64.size) : b.Valid :=
  ⟨h.cursor_le, h.length.trans_lt hlength⟩

/-- Operations neither add nor drop tokens, and the cursor stays within them. -/
theorem Reached.forward {tokens : List String} {b : TokenBuffer} (h : b.Reached tokens) :
    (ofTokens tokens).Forward b := by
  induction h with
  | start => exact .refl _
  | take _ step ih => exact ih.trans (.of_take step)
  | replace _ position token ih => exact ih.trans (.replace _ position token)
  | @rewind b earlier _ _ spellings ih hback =>
    have hlength : (b.rewind earlier.cursor spellings).tokens.length = earlier.tokens.length := by
      rw [length_rewind, ih.length, hback.length]
    exact ⟨hlength.trans hback.length, hback.cursor, fun hmove => hlength ▸ hback.inside hmove⟩

end TokenBuffer

/-! ## States after any operations -/

/-- The cursor stays within the tokens, whatever operations there are. -/
theorem State.valid_performAll {tokens : List String} (hlength : tokens.length < UInt64.size)
    (attributes : Option Namespace) (ops : List Operation) :
    ((State.start tokens attributes).performAll ops).tokens.Valid := by
  have hstart : (State.start tokens attributes).Beyond (State.start tokens attributes).tokens :=
    .refl rfl
  have hforward : (TokenBuffer.ofTokens tokens).Forward _ := (hstart.performAll ops).now
  exact hforward.valid hlength

theorem Step.Operates.map {α β : Type} {x : Step α} (f : α → β) (hx : x.Operates) :
    Step.Operates (f <$> x) :=
  hx.bind fun a => .pure (f a)

/-- A caller goes on from where a step ends, whatever the answer to it is. -/
theorem Machine.state_answer (x : Step Reply) (st : State) :
    (recording.answer x st).2 = Step.leaves x st := by
  rw [answer, Step.leaves]
  cases x st <;> rfl

/-- A caller works through the operations of a state, those of the attempts that it makes
included. -/
theorem Script.operates (script : Script) : Step.Operates (script.run recording) := by
  induction script with
  | stop verdict => exact fun st => ⟨[], by cases verdict <;> rfl⟩
  | act op rest ih =>
    intro st
    obtain ⟨ops, hops⟩ := ih (recording.answer (recording.act op) st).1 (st.perform op)
    exact ⟨op :: ops, hops⟩
  | attempt owner body rest hbody ih =>
    intro st
    have htried := (hbody.attempt owner).map Reply.tried
    obtain ⟨ops, hops⟩ := htried st
    rw [← Machine.state_answer] at hops
    obtain ⟨more, hmore⟩ := ih
      (recording.answer (.tried <$> State.attempt owner (body.run recording)) st).1
      (st.performAll ops)
    refine ⟨ops ++ more, ?_⟩
    rw [State.performAll_append, ← hmore, ← hops]
    rfl

/-! ## What an index stands for -/

/-- What reading by indices gives: the tokens that are left, counted from the cursor, and nothing at
their end or behind it. An index whose sum with the cursor is no word ends the program. -/
structure TokenBuffer.ReadBy (b : TokenBuffer) (read : UInt64 → Except Error (Option String)) :
    Prop where
  inWord (index : UInt64) : b.cursor + index.toNat < UInt64.size →
    read index = .ok b.remaining[index.toNat]?
  overflows (index : UInt64) : UInt64.size ≤ b.cursor + index.toNat →
    read index = .error .overflow

/-- The indices and counts of a buffer are exact as far as their sums with the cursor are words. For
the tokens that are left they are. -/
structure TokenBuffer.Indexed (b : TokenBuffer) : Prop where
  /-- The length less the cursor is not below zero, and the same in words. -/
  size_eq : b.cursor ≤ b.tokens.length ∧
    (UInt64.ofNat b.tokens.length - UInt64.ofNat b.cursor).toNat = b.size
  /-- The cursor and a count of tokens that are left have a word as their sum. -/
  add_lt (n : UInt64) : n.toNat ≤ b.size →
    b.cursor + n.toNat < UInt64.size ∧ b.position n = .ok (b.cursor + n.toNat)
  reads : b.ReadBy b.get?
  takes (n : UInt64) : n.toNat ≤ b.size →
    b.take? n.toNat = some (b.remaining.take n.toNat,
      .between (b.consumed ++ b.remaining.take n.toNat) (b.remaining.drop n.toNat))
  refuses (n : UInt64) : b.size < n.toNat → b.take? n.toNat = none

theorem TokenBuffer.Valid.indexed {b : TokenBuffer} (h : b.Valid) : b.Indexed where
  size_eq := ⟨h.cursor, h.toNat_length_sub_cursor⟩
  add_lt _ hn := ⟨h.add_lt hn, h.position_of_lt (h.add_lt hn)⟩
  reads := ⟨fun _ => h.get?_of_lt, fun _ => h.get?_of_le⟩
  takes _ := h.take?_of_le
  refuses n := (b.take?_eq_none_iff n.toNat).mpr

/-- The second state has the tokens of a buffer and all else as the first. Every savepoint that is
open leads back to where it led before. -/
def State.TokensBecome (st : State) (b : TokenBuffer) (st' : State) : Prop :=
  Records st st' ∧ st'.content = { st.content with tokens := b }

/-- The indices and counts of a state are those of its tokens. A token that is left is replaced
alone, and behind the end nothing is. An index whose sum with the cursor is no word ends the
program. -/
structure State.Indexed (st : State) : Prop where
  tokens : st.tokens.Indexed
  reads : st.tokens.ReadBy st.token?
  takes (n : UInt64) : n.toNat ≤ st.tokens.size →
    ∃ rest, st.next? n.toNat = some (st.tokens.remaining.take n.toNat, rest) ∧
      st.TokensBecome (.between (st.tokens.consumed ++ st.tokens.remaining.take n.toNat)
        (st.tokens.remaining.drop n.toNat)) rest
  refuses (n : UInt64) : st.tokens.size < n.toNat → st.next? n.toNat = none
  replaces (index : UInt64) (token : String) : index.toNat < st.tokens.size →
    ∃ st', st.setToken index token = .ok st' ∧ st.TokensBecome
      (.between st.tokens.consumed (st.tokens.remaining.set index.toNat token)) st'
  ignores (index : UInt64) (token : String) : st.tokens.size ≤ index.toNat →
    st.tokens.cursor + index.toNat < UInt64.size → st.setToken index token = .ok st
  overflows (index : UInt64) (token : String) : UInt64.size ≤ st.tokens.cursor + index.toNat →
    st.setToken index token = .error .overflow

namespace State

/-- Replacing a token that is not there does nothing, not even to the savepoints. -/
theorem respell_of_at?_eq_none {st : State} {position : Nat} (h : st.tokens.at? position = none)
    (token : String) : st.respell position token = st := by
  simp only [respell, h]

theorem tokensBecome_respell (st : State) (position : Nat) (token : String) :
    st.TokensBecome (st.tokens.replace position token) (st.respell position token) :=
  Records.of_recorded (.respell st.content position token)

theorem exists_next?_eq {st : State} {n : Nat} {taken : List String} {b : TokenBuffer}
    (h : st.tokens.take? n = some (taken, b)) :
    ∃ rest, st.next? n = some (taken, rest) ∧ st.TokensBecome b rest := by
  have hnext := next?_eq_some.mpr ⟨b, h, rfl⟩
  exact ⟨_, hnext, records_next hnext, rfl⟩

/-- A state is indexed as its tokens are. -/
theorem indexed_of_valid {st : State} (h : st.tokens.Valid) : st.Indexed where
  tokens := h.indexed
  reads := h.indexed.reads
  takes n hn := exists_next?_eq (h.indexed.takes n hn)
  refuses n hn := by rw [next?, h.indexed.refuses n hn, Option.map_none]
  replaces index token hindex := by
    have hposition := h.position_of_lt (h.add_lt (Nat.le_of_lt hindex))
    refine ⟨_, setToken_eq_ok.mpr ⟨_, hposition, rfl⟩, ?_⟩
    rw [← h.replace_add]
    exact st.tokensBecome_respell _ token
  ignores index token hindex hsum := by
    have hnone : st.tokens.at? (st.tokens.cursor + index.toNat) = none := by
      rw [TokenBuffer.at?, List.getElem?_eq_none_iff]
      exact Nat.sub_le_iff_le_add'.mp hindex
    have hsame := respell_of_at?_eq_none hnone token
    exact setToken_eq_ok.mpr ⟨_, h.position_of_lt hsum, hsame.symm⟩
  overflows index token hsum := by
    rw [setToken, h.position_of_le hsum]
    rfl

end State

/-- The state in which a caller leaves a parse, from its start on. -/
def Script.outcome (script : Script) (tokens : List String) (attributes : Option Namespace) :
    State :=
  Step.leaves (script.run recording) (.start tokens attributes)

/-- Whatever was done with a buffer or a state, an index stands for the token at this place of the
tokens that are left, and for none at their end or behind it, as far as its sum with the cursor is a
word. A greater one ends the program. -/
theorem indexed_of_length {tokens : List String} (hlength : tokens.length < UInt64.size) :
    (∀ b : TokenBuffer, b.Reached tokens → b.Indexed) ∧
      ∀ (script : Script) (attributes : Option Namespace),
        (script.outcome tokens attributes).Indexed := by
  refine ⟨fun b hb => (hb.forward.valid hlength).indexed, fun script attributes => ?_⟩
  obtain ⟨ops, hops⟩ := script.operates (.start tokens attributes)
  rw [Script.outcome, hops]
  exact State.indexed_of_valid (State.valid_performAll hlength attributes ops)

/-- Two tokens are consumed. -/
def twoTaken : TokenBuffer := .between ["a", "b"] ["c"]

/-- A token is consumed, and then an attempt replaces the next one, consumes it and fails. -/
def retreat : Script :=
  .act (.edit (.next 1)) fun _ =>
    .attempt (.rule 1)
      (.act (.edit (.setToken 0 "x")) fun _ => .act (.edit (.next 1)) fun _ => .stop (.ok false))
      fun _ => .stop (.ok true)

/-- The state in which that ends. -/
def retreated : State := retreat.outcome ["a", "b", "c"] none

theorem indexed_of_length_retreat :
    ["a", "b", "c"].length < UInt64.size ∧ twoTaken.Reached ["a", "b", "c"] ∧
      twoTaken.get? 0 = .ok (some "c") ∧
      twoTaken.get? (.ofNat (2 ^ 64 - 2)) = .error .overflow ∧
      retreated.tokens = .between ["a"] ["b", "c"] ∧
      retreated.token? 1 = .ok (some "c") ∧ retreated.token? 2 = .ok none ∧
      retreated.token? (.ofNat (2 ^ 64 - 1)) = .error .overflow ∧
      ∃ st', retreated.setToken 1 "x" = .ok st' ∧ st'.tokens = .between ["a"] ["b", "x"] := by
  have hlength : ["a", "b", "c"].length < UInt64.size := by decide
  obtain ⟨hbuffers, hstates⟩ := indexed_of_length hlength
  have htake : (TokenBuffer.ofTokens ["a", "b", "c"]).take? 2 = some (["a", "b"], twoTaken) := rfl
  have hreached : twoTaken.Reached ["a", "b", "c"] := .take .start htake
  obtain ⟨hget, hgetBeyond⟩ := (hbuffers twoTaken hreached).reads
  have h : retreated.Indexed := hstates retreat none
  have htokens : retreated.tokens = .between ["a"] ["b", "c"] := by decide
  obtain ⟨-, ⟨hread, hreadBeyond⟩, -, -, hreplaces, -, -⟩ := h
  rw [htokens] at hread hreadBeyond hreplaces
  simp only [TokenBuffer.remaining_between] at hread
  simp only [TokenBuffer.consumed_between, TokenBuffer.remaining_between] at hreplaces
  obtain ⟨st', hset, -, hcontent⟩ := hreplaces 1 "x" (by decide)
  exact ⟨hlength, hreached, hget 0 (by decide), hgetBeyond _ (by decide), htokens,
    hread 1 (by decide), hread 2 (by decide), hreadBeyond _ (by decide), st', hset,
    congrArg Content.tokens hcontent⟩

/-- Where all tokens are consumed, the greatest index stands for none, and still it is not read as
such: its sum with the cursor is no word. -/
theorem not_forall_token?_eq :
    ¬ ∀ (tokens : List String) (attributes : Option Namespace) (script : Script) (index : UInt64),
      tokens.length < UInt64.size →
      (script.outcome tokens attributes).token? index =
        .ok (script.outcome tokens attributes).tokens.remaining[index.toNat]? := by
  intro h
  have hread := h ["a"] none (.act (.edit (.next 1)) fun _ => .stop (.ok true))
    (.ofNat (2 ^ 64 - 1)) (by decide)
  exact absurd hread nofun

end TokenGrammar
