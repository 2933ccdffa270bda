import Mathlib.Data.List.Induction
import Mathlib.Data.List.Infix
import TokenGrammar.Proofs.FullCopies
import TokenGrammar.Proofs.Isolation
import TokenGrammar.Proofs.Rollback

/-!
# The span of an open savepoint

What a caller may do while a savepoint is open, and what the savepoint reports then: the tokens
between the cursor at its opening and the current one, as they were spelled at its opening.

* `State.perform`, `State.performAll`: operations one after the other, those that fail included;
* `State.perform_cases`: what an operation leaves of a state;
* `Since`: what holds while a savepoint is open. It puts back the content of its opening, from the
  current content and from whatever a younger savepoint puts back, and in none of these contents is
  the cursor before that of the opening (`TokenBuffer.Onward`);
* `Since.perform`, `Since.performAll`: an operation keeps this up unless it releases the savepoint,
  and so do any number of operations;
* `State.consumedTokens_performAll`: so the savepoint reports its span.
-/

namespace TokenGrammar

/-! ## Operations one after the other -/

namespace State

/-- The state after an operation. The state counts after an error, too. -/
def perform (st : State) (op : Operation) : State :=
  (recording.answer (recording.act op) st).2

/-- The state after operations, one after the other. -/
def performAll (st : State) (ops : List Operation) : State := ops.foldl perform st

theorem performAll_concat (st : State) (ops : List Operation) (op : Operation) :
    st.performAll (ops ++ [op]) = (st.performAll ops).perform op := by
  simp [performAll]

/-- What is made of the answer of a step does not matter for the state that it leaves. -/
theorem perform_eq {α : Type} {op : Operation} {reply : α → Reply} {x : Step α}
    (hop : recording.act op = reply <$> x) (st : State) :
    st.perform op =
      match x st with
      | .ok _ st' => st'
      | .error _ st' => st' := by
  rw [perform, Machine.answer, hop, ← bind_pure_comp, Step.bind_apply]
  cases x st <;> rfl

theorem perform_edit (st : State) (e : Edit) : st.perform (.edit e) = (e.onState st).2 := by
  rw [perform, Machine.answer, e.act_recording]
  cases (e.onState st).1 <;> rfl

theorem perform_save (st : State) (owner : Owner) :
    st.perform (.save owner) = st ∨ st.perform (.save owner) = st.opened owner := by
  rw [perform_eq rfl]
  by_cases h : st.savepoints.any (·.owner = owner)
  · rw [save_eq, if_pos h]
    exact .inl rfl
  · rw [save_eq, if_neg h]
    exact .inr rfl

/-- The youngest savepoint is taken off the stack, or nothing is done. -/
theorem pop_cases (handle : Handle) (st : State) :
    (∃ e, pop handle st = .error e st) ∨ ∃ sp rest, st.savepoints = sp :: rest ∧
      pop handle st = .ok sp (st.content.under rest) := by
  rw [pop_eq]
  cases st.savepoints with
  | nil => exact .inl ⟨_, rfl⟩
  | cons sp rest =>
    by_cases h : handle.depth = rest.length
    · exact .inr ⟨sp, rest, rfl, if_pos h⟩
    · exact .inl ⟨_, if_neg h⟩

/-- An operation changes the content, opens a savepoint, releases the youngest one, or does
nothing. -/
theorem perform_cases (st : State) (op : Operation) :
    st.perform op = st ∨ (∃ e : Edit, st.perform op = (e.onState st).2) ∨
      (∃ owner, st.perform op = st.opened owner) ∨
      ∃ sp rest, st.savepoints = sp :: rest ∧
        (st.perform op = st.content.under rest ∨
          st.perform op = (st.content.rollBack sp).under rest) := by
  cases op with
  | edit e => exact .inr (.inl ⟨e, st.perform_edit e⟩)
  | save owner =>
    obtain h | h := st.perform_save owner
    · exact .inl h
    · exact .inr (.inr (.inl ⟨owner, h⟩))
  | dismiss handle =>
    rw [perform_eq rfl, dismiss_eq]
    obtain ⟨e, h⟩ | ⟨sp, rest, hsps, h⟩ := st.pop_cases handle
    · rw [h]
      exact .inl rfl
    · rw [h]
      exact .inr (.inr (.inr ⟨sp, rest, hsps, .inl rfl⟩))
  | restore handle =>
    rw [perform_eq rfl, restore_eq]
    obtain ⟨e, h⟩ | ⟨sp, rest, hsps, h⟩ := st.pop_cases handle
    · rw [h]
      exact .inl rfl
    · rw [h]
      exact .inr (.inr (.inr ⟨sp, rest, hsps, .inr rfl⟩))

end State

/-! ## Moving on -/

/-- The cursor stands where it stood in the other buffer, or further on and within the tokens. -/
def TokenBuffer.Onward (b d : TokenBuffer) : Prop :=
  d.cursor = b.cursor ∨ b.cursor < d.cursor ∧ d.cursor ≤ d.tokens.length

namespace TokenBuffer.Onward

variable {b d : TokenBuffer}

theorem refl (b : TokenBuffer) : b.Onward b := .inl rfl

theorem le (h : b.Onward d) : b.cursor ≤ d.cursor := by
  obtain h | ⟨h, -⟩ := h <;> omega

theorem take (h : b.Onward d) {n : Nat} {taken : List String} {rest : TokenBuffer}
    (ht : d.take? n = some (taken, rest)) : b.Onward rest := by
  simp only [take?, Option.ite_none_left_eq_some, Option.some.injEq, Prod.mk.injEq] at ht
  obtain ⟨hn, -, rfl⟩ := ht
  simp only [Onward, size] at h hn ⊢
  omega

theorem replace (h : b.Onward d) (p : Nat) (token : String) : b.Onward (d.replace p token) := by
  simpa [Onward, TokenBuffer.replace] using h

/-- An edit moves the cursor on or leaves it where it is. -/
theorem edit {c : Content} (h : b.Onward c.tokens) (e : Edit) :
    b.Onward (e.onContent c).2.tokens := by
  obtain hsame | ⟨n, taken, htake⟩ | ⟨position, token, hreplace⟩ := e.tokens_onContent c
  · rwa [hsame]
  · exact h.take htake
  · rw [hreplace]
    exact h.replace position token

end TokenBuffer.Onward

/-! ## While a savepoint is open -/

namespace Tracks

variable {seen : List Content} {sps : List Savepoint} {copies : List (Owner × Content)}

/-- The oldest savepoint puts its copy back from all that was seen. -/
theorem getLast {owner : Owner} {c : Content} (h : Tracks seen sps copies)
    (hlast : copies.getLast? = some (owner, c)) :
    ∃ inner sp, sps = inner ++ [sp] ∧ ∀ d ∈ seen, d.rollBack sp = c := by
  induction h with
  | nil => simp at hlast
  | @cons seen sp sps copy copies back rest ih =>
    cases rest with
    | nil =>
      simp only [List.getLast?_singleton, Option.some.injEq, Prod.mk.injEq] at hlast
      exact ⟨[], sp, rfl, hlast.2 ▸ back⟩
    | cons back' rest' =>
      rw [List.getLast?_cons_cons] at hlast
      obtain ⟨inner, oldest, hsps, hback⟩ := ih hlast
      exact ⟨sp :: inner, oldest, by rw [hsps]; rfl, fun d hd => hback d (by simp [hd])⟩

end Tracks

/-- A savepoint is open since the state had the content `opening`: of the savepoints `sps` it is the
oldest, and `older` were open before. The copies are what `sps` put back. -/
structure Since (opening : Content) (st : State) (sps older : List Savepoint)
    (copies : List (Owner × Content)) : Prop where
  savepoints : st.savepoints = sps ++ older
  tracks : Tracks [st.content] sps copies
  oldest : ∃ owner, copies.getLast? = some (owner, opening)
  now : opening.tokens.Onward st.tokens
  copied : ∀ copy ∈ copies, opening.tokens.Onward copy.2.tokens

namespace Since

variable {opening : Content} {st : State} {sps older : List Savepoint}
  {copies : List (Owner × Content)}

theorem opened (st : State) (owner : Owner) :
    Since st.content (st.opened owner) [.fresh owner] st.savepoints [(owner, st.content)] where
  savepoints := rfl
  tracks := (Tracks.nil _).push owner
  oldest := ⟨owner, rfl⟩
  now := .refl _
  copied := by simpa using TokenBuffer.Onward.refl st.content.tokens

/-- A change of the content is recorded in the savepoint, and in those below it. -/
theorem edit (h : Since opening st sps older copies) (e : Edit) :
    ∃ f : Savepoint → Savepoint,
      Since opening (e.onState st).2 (sps.map f) (older.map f) copies := by
  obtain ⟨⟨f, hf, hrecording⟩, -, hcontent⟩ := e.onState_eq st
  refine ⟨f, by rw [hf, h.savepoints, List.map_append], ?_, h.oldest, ?_, h.copied⟩
  · exact (h.tracks.record List.mem_cons_self hrecording).mono (by simp)
  · have hon := TokenBuffer.Onward.edit (c := st.content) h.now e
    rwa [← hcontent] at hon

/-- A younger savepoint is opened. -/
theorem save (h : Since opening st sps older copies) (owner : Owner) :
    Since opening (st.opened owner) (.fresh owner :: sps) older
      ((owner, st.content) :: copies) where
  savepoints := congrArg (Savepoint.fresh owner :: ·) h.savepoints
  tracks := h.tracks.push owner
  oldest := by
    obtain ⟨o, ho⟩ := h.oldest
    exact ⟨o, by simp [List.getLast?_cons, ho]⟩
  now := h.now
  copied copy hcopy := by
    obtain rfl | hcopy := List.mem_cons.mp hcopy
    · exact h.now
    · exact h.copied copy hcopy

/-- A younger savepoint is released, and the changes since it was opened are kept or taken back. -/
theorem release {sp : Savepoint} {rest : List Savepoint}
    (h : Since opening st sps older copies) (hsps : st.savepoints = sp :: rest)
    (hopen : older.length < rest.length) :
    ∃ sps' copies', Since opening (st.content.under rest) sps' older copies' ∧
      Since opening ((st.content.rollBack sp).under rest) sps' older copies' := by
  obtain ⟨hsavepoints, htracks, ⟨owner, holdest⟩, hnow, hcopied⟩ := h
  cases htracks with
  | nil => simp at holdest
  | @cons _ top inner copy copies back below =>
    obtain ⟨rfl, rfl⟩ := List.cons.inj (hsps.symm.trans hsavepoints)
    have holdest : copies.getLast? = some (owner, opening) := by
      cases below with
      | nil => simp at hopen
      | cons => rwa [List.getLast?_cons_cons] at holdest
    have hcopied' : ∀ copy ∈ copies, opening.tokens.Onward copy.2.tokens :=
      fun copy hcopy => hcopied copy (List.mem_cons_of_mem _ hcopy)
    have hback : st.content.rollBack sp = copy := back _ List.mem_cons_self
    rw [hback]
    exact ⟨inner, copies, ⟨rfl, below.mono (by simp), ⟨owner, holdest⟩, hnow, hcopied'⟩,
      ⟨rfl, below.mono (by simp), ⟨owner, holdest⟩, hcopied _ List.mem_cons_self, hcopied'⟩⟩

/-- An operation that leaves the savepoint open. -/
theorem perform (h : Since opening st sps older copies) {op : Operation}
    (hopen : older.length < (st.perform op).depth) :
    ∃ sps' older' copies', Since opening (st.perform op) sps' older' copies' ∧
      older'.length = older.length := by
  obtain heq | ⟨e, heq⟩ | ⟨owner, heq⟩ | ⟨sp, rest, hsps, heq⟩ := st.perform_cases op
  · exact ⟨sps, older, copies, heq.symm ▸ h, rfl⟩
  · obtain ⟨f, hf⟩ := h.edit e
    exact ⟨_, _, _, heq.symm ▸ hf, List.length_map _⟩
  · exact ⟨_, _, _, heq.symm ▸ h.save owner, rfl⟩
  · have hrest : (st.perform op).depth = rest.length := by
      obtain heq | heq := heq <;> rw [heq, Content.depth_under]
    obtain ⟨sps', copies', hkept, hback⟩ := h.release hsps (hrest ▸ hopen)
    obtain heq | heq := heq
    · exact ⟨sps', older, copies', heq.symm ▸ hkept, rfl⟩
    · exact ⟨sps', older, copies', heq.symm ▸ hback, rfl⟩

/-- Operations none of which releases the savepoint. -/
theorem performAll (h : Since opening st sps older copies) (ops : List Operation)
    (hopen : ∀ done, done <+: ops → older.length < (st.performAll done).depth) :
    ∃ sps' older' copies', Since opening (st.performAll ops) sps' older' copies' ∧
      older'.length = older.length := by
  induction ops using List.reverseRecOn with
  | nil => exact ⟨sps, older, copies, h, rfl⟩
  | append_singleton ops op ih =>
    obtain ⟨sps', older', copies', h', hlength⟩ :=
      ih fun done hdone => hopen done (hdone.trans (List.prefix_append ops [op]))
    have hstill := hopen _ (List.prefix_refl _)
    rw [State.performAll_concat, ← hlength] at hstill
    obtain ⟨sps'', older'', copies'', h'', hlength'⟩ := h'.perform hstill
    rw [State.performAll_concat]
    exact ⟨sps'', older'', copies'', h'', hlength'.trans hlength⟩

/-- The savepoint reports the tokens that were consumed since it was opened. -/
theorem consumedTokens_eq (h : Since opening st sps older copies)
    (hmove : opening.tokens.cursor < st.tokens.cursor) :
    st.consumedTokens ⟨older.length⟩ =
      opening.tokens.remaining.take (st.tokens.cursor - opening.tokens.cursor) := by
  obtain ⟨owner, holdest⟩ := h.oldest
  obtain ⟨inner, sp, hsps, hback⟩ := h.tracks.getLast holdest
  have hsp : st.savepoints.reverse[older.length]? = some sp := by
    rw [h.savepoints, hsps]
    simp
  have hend : st.tokens.cursor ≤ st.tokens.tokens.length := by
    obtain heq | ⟨-, hend⟩ := h.now
    · omega
    · exact hend
  exact State.consumedTokens_of_rollBack hsp (hback _ List.mem_cons_self) hmove hend

end Since

/-! ## What the savepoint reports -/

/-- While a savepoint is open the cursor is never before its opening. When it is past it, the
savepoint reports the tokens from there to the cursor as they were spelled at its opening. -/
theorem State.consumedTokens_performAll {owner : Owner} {st st₀ : State} {handle : Handle}
    (hsave : State.save owner st = .ok handle st₀) (ops : List Operation)
    (hopen : ∀ done, done <+: ops → handle.depth < (st₀.performAll done).depth) :
    st.tokens.cursor ≤ (st₀.performAll ops).tokens.cursor ∧
      (st.tokens.cursor < (st₀.performAll ops).tokens.cursor →
        (st₀.performAll ops).consumedTokens handle =
          st.tokens.remaining.take ((st₀.performAll ops).tokens.cursor - st.tokens.cursor)) := by
  obtain ⟨-, rfl, rfl⟩ := State.save_eq_ok.mp hsave
  obtain ⟨sps, older, copies, h, hlength⟩ := (Since.opened st owner).performAll ops hopen
  refine ⟨h.now.le, fun hmove => ?_⟩
  have hconsumed := h.consumedTokens_eq hmove
  rwa [hlength] at hconsumed

/-- A token is replaced and consumed, which is taken back, and then replaced and consumed again. -/
def respellings : List Operation :=
  [.edit (.next 1), .save (.rule 1), .edit (.setToken 0 "x"), .edit (.next 1), .restore ⟨1⟩,
    .edit (.setToken 0 "y"), .edit (.next 1)]

theorem State.consumedTokens_performAll_respellings :
    (((State.start ["a", "b", "c"] none).opened .driver).performAll respellings).consumedTokens ⟨0⟩
      = ["a", "b"] := by
  have hsave : State.save .driver (.start ["a", "b", "c"] none) =
      .ok ⟨0⟩ ((State.start ["a", "b", "c"] none).opened .driver) :=
    State.save_eq_ok.mpr ⟨by decide, rfl, rfl⟩
  have hopen : ∀ done ∈ respellings.inits,
      0 < (((State.start ["a", "b", "c"] none).opened .driver).performAll done).depth := by decide
  exact (consumedTokens_performAll hsave respellings
    fun done hdone => hopen done ((List.mem_inits done respellings).mpr hdone)).2 (by decide)

end TokenGrammar
