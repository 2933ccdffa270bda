import Mathlib.Order.Bounds.Basic
import TokenGrammar.Proofs.Isolation
import TokenGrammar.Proofs.Rollback

/-!
# Greedy collection

A collector takes as many of the leading tokens as it may: each of them has to be accepted and to
have a value, there must not be more than the upper bound, and from the lower bound on none may look
like a flag. It matches if these are as many as the lower bound asks for.

* `Collector.Takes`: when one token may be taken. `Collector.takes_of_lt_length_gather`,
  `Collector.not_takes_length_gather`: the tokens that are taken are those in front of the first one
  that may not be, by induction on the tokens;
* `Collector.Admits`: when so many leading tokens may be taken.
  `Collector.isGreatest_length_gather`: the ones that are taken are the most;
* `Collector.received`, `Collector.stored_gather`: what a handler gets for them;
* `Collector.collect_eq_consume`: what a collector does where its owner is free;
* `Rule.run_collect_greedy`: what a rule does that takes values.
-/

namespace TokenGrammar

namespace Collector

variable {c : Collector} {count i : Nat} {token : String} {tokens : List String}

/-! ## Tokens that may be taken -/

/-- The token may be taken when `count` tokens are taken already. -/
structure Takes (c : Collector) (count : Nat) (token : String) : Prop where
  more : c.bounds.allowsMore count = true
  accepted : c.filter.accepts token = true
  value : (c.filter.valueOf? token).isSome
  flag : count < c.bounds.least ∨ c.filter.looksLikeFlag token = false

theorem gather_cons_of_takes (h : c.Takes count token) (rest : List String) :
    ∃ value, c.filter.valueOf? token = some value ∧
      c.gather count (token :: rest) = value :: c.gather (count + 1) rest := by
  obtain ⟨value, hvalue⟩ := Option.isSome_iff_exists.mp h.value
  have hflag : ¬ (c.filter.looksLikeFlag token && c.bounds.least ≤ count) = true := by
    rcases h.flag with hlt | hflag
    · simp [Nat.not_le.mpr hlt]
    · simp [hflag]
  refine ⟨value, hvalue, ?_⟩
  rw [gather, h.more, h.accepted, if_neg (by simp), if_neg hflag, hvalue]

theorem gather_cons_of_not_takes (h : ¬ c.Takes count token) (rest : List String) :
    c.gather count (token :: rest) = [] := by
  rw [gather]
  split
  · rfl
  · split
    · rfl
    · rename_i hrefused hflag
      split
      · rfl
      · rename_i value hvalue
        simp only [Bool.or_eq_true, Bool.not_eq_true', not_or, Bool.not_eq_false] at hrefused
        refine absurd ⟨hrefused.1, hrefused.2, by simp [hvalue], ?_⟩ h
        simp only [Bool.and_eq_true, decide_eq_true_eq, not_and] at hflag
        by_cases hlt : count < c.bounds.least
        · exact .inl hlt
        · exact .inr (by simpa using fun hlooks => hlt (Nat.not_le.mp (hflag hlooks)))

/-- Each token that is taken may be taken behind the ones in front of it. -/
theorem takes_of_lt_length_gather (hi : i < (c.gather count tokens).length)
    (htoken : tokens[i]? = some token) : c.Takes (count + i) token := by
  induction tokens generalizing count i with
  | nil => cases htoken
  | cons first rest ih =>
    by_cases h : c.Takes count first
    · obtain ⟨value, -, hgather⟩ := gather_cons_of_takes h rest
      rw [hgather, List.length_cons] at hi
      cases i with
      | zero =>
        obtain rfl := Option.some.inj htoken
        exact h
      | succ i =>
        rw [Nat.add_succ, ← Nat.succ_add]
        exact ih (Nat.lt_of_succ_lt_succ hi) htoken
    · rw [gather_cons_of_not_takes h rest] at hi
      cases hi

/-- The first token that is not taken may not be taken. -/
theorem not_takes_length_gather (htoken : tokens[(c.gather count tokens).length]? = some token) :
    ¬ c.Takes (count + (c.gather count tokens).length) token := by
  induction tokens generalizing count with
  | nil => cases htoken
  | cons first rest ih =>
    by_cases h : c.Takes count first
    · obtain ⟨value, -, hgather⟩ := gather_cons_of_takes h rest
      rw [hgather, List.length_cons] at htoken ⊢
      rw [Nat.add_succ, ← Nat.succ_add]
      exact ih htoken
    · rw [gather_cons_of_not_takes h rest] at htoken ⊢
      obtain rfl := Option.some.inj htoken
      exact h

/-- The values that are taken are those of the leading tokens. -/
theorem gather_eq_filterMap (c : Collector) (count : Nat) (tokens : List String) :
    c.gather count tokens =
      (tokens.take (c.gather count tokens).length).filterMap c.filter.valueOf? := by
  induction tokens generalizing count with
  | nil => rfl
  | cons first rest ih =>
    by_cases h : c.Takes count first
    · obtain ⟨value, hvalue, hgather⟩ := gather_cons_of_takes h rest
      rw [hgather, List.length_cons, List.take_succ_cons, List.filterMap_cons, hvalue, ← ih]
    · rw [gather_cons_of_not_takes h rest]
      rfl

/-! ## The most tokens that may be taken -/

/-- The first `k` tokens may be taken: they are not more than the upper bound, each of them is
accepted and has a value, and none of them looks like a flag from the lower bound on. -/
structure Admits (c : Collector) (tokens : List String) (k : Nat) : Prop where
  left : k ≤ tokens.length
  most : ∀ most ∈ c.bounds.most, k ≤ most
  each : ∀ i token, i < k → tokens[i]? = some token →
    c.filter.accepts token = true ∧ (c.filter.valueOf? token).isSome ∧
      (i < c.bounds.least ∨ c.filter.looksLikeFlag token = false)

theorem admits_length_gather (c : Collector) (tokens : List String) :
    c.Admits tokens (c.gather 0 tokens).length := by
  have hleft := c.length_gather_le 0 tokens
  have htakes {i : Nat} {token : String} (hi : i < (c.gather 0 tokens).length)
      (htoken : tokens[i]? = some token) : c.Takes i token := by
    have := takes_of_lt_length_gather hi htoken
    rwa [Nat.zero_add] at this
  refine ⟨hleft, fun most hmost => ?_, fun i token hi htoken => ?_⟩
  · refine Nat.le_of_not_lt fun hlt => ?_
    -- one token too many would have been taken beyond the bound
    have hmore := (htakes hlt (List.getElem?_eq_getElem (Nat.lt_of_lt_of_le hlt hleft))).more
    simp [Bounds.allowsMore, Option.mem_def.mp hmost] at hmore
  · have := htakes hi htoken
    exact ⟨this.accepted, this.value, this.flag⟩

/-- As many leading tokens are taken as may be. -/
theorem isGreatest_length_gather (c : Collector) (tokens : List String) :
    IsGreatest {k | c.Admits tokens k} (c.gather 0 tokens).length := by
  refine ⟨c.admits_length_gather tokens, fun k hk => Nat.le_of_not_lt fun hlt => ?_⟩
  have htoken := List.getElem?_eq_getElem (Nat.lt_of_lt_of_le hlt hk.left)
  obtain ⟨haccepted, hvalue, hflag⟩ := hk.each _ _ hlt htoken
  refine not_takes_length_gather htoken ?_
  rw [Nat.zero_add]
  refine ⟨?_, haccepted, hvalue, hflag⟩
  cases hmost : c.bounds.most with
  | none => simp [Bounds.allowsMore, hmost]
  | some most =>
    have := hk.most most hmost
    simp only [Bounds.allowsMore, hmost, decide_eq_true_eq]
    omega

/-! ## What the handler gets -/

/-- What a handler gets for the leading tokens: their values in order, which is the constant for
each if there is one. Where no token may be taken, a constant is there all the same. -/
def received (c : Collector) (taken : List String) : List Value :=
  match c.filter.constant with
  | some constant =>
    if c.bounds.most = some 0 then [constant] else List.replicate taken.length constant
  | none => taken.filterMap c.filter.valueOf?

theorem stored_gather (c : Collector) (tokens : List String) :
    c.stored (c.gather 0 tokens) = c.received (tokens.take (c.gather 0 tokens).length) := by
  have hgather := c.gather_eq_filterMap 0 tokens
  cases hconstant : c.filter.constant with
  | none =>
    rw [stored, received, hconstant]
    exact hgather
  | some constant =>
    have hvalue : c.filter.valueOf? = fun _ => some constant := by
      funext token
      rw [ValueFilter.valueOf?, hconstant]
    rw [hvalue, List.filterMap_eq_map', List.map_const'] at hgather
    rw [stored, received, hconstant]
    split
    · rename_i hsame hzero
      obtain rfl := Option.some.inj hsame
      exact (if_pos hzero).symm
    · rename_i hne
      exact hgather.trans (if_neg fun hzero => hne constant rfl hzero).symm

/-! ## What a collector does -/

variable {st : State}

/-- Where its owner is free, a collector consumes the tokens that it takes, or puts them back. -/
theorem collect_eq_consume (hfree : ∀ sp ∈ st.savepoints, sp.owner ≠ .rule c.id) :
    c.collect st =
      if c.bounds.least ≤ (c.gather 0 st.tokens.remaining).length then
        .ok (some (c.stored (c.gather 0 st.tokens.remaining)))
          (consume (c.gather 0 st.tokens.remaining).length st)
      else
        .ok none
          (st.content.under (consume (c.gather 0 st.tokens.remaining).length st).savepoints) := by
  obtain ⟨f, hf, hconsume⟩ := c.recorded_after st.content
  have hsave := Content.save_under (c := st.content) hfree
  rw [State.under_content] at hsave
  have hplain : consume (c.gather 0 st.tokens.remaining).length st =
      (c.after st.content).under (st.savepoints.map f) := hconsume st.savepoints
  have hinner : consume (c.gather 0 st.tokens.remaining).length
      (st.content.under (.fresh (.rule c.id) :: st.savepoints)) =
      (c.after st.content).under (f (.fresh (.rule c.id)) :: st.savepoints.map f) := hconsume _
  have hdismiss := (c.after st.content).dismiss_under (f (.fresh (.rule c.id)))
    (st.savepoints.map f)
  have hrestore := (c.after st.content).restore_under (f (.fresh (.rule c.id)))
    (st.savepoints.map f)
  rw [List.length_map] at hdismiss hrestore
  rw [hf.rollBack_fresh] at hrestore
  have hrun : (modify (consume (c.gather 0 st.tokens.remaining).length) : Step Unit)
      (st.content.under (.fresh (.rule c.id) :: st.savepoints)) = .ok () _ :=
    congrArg (EStateM.Result.ok ()) hinner
  have htokens : st.content.tokens = st.tokens := rfl
  rw [collect_eq, hplain]
  by_cases he : c.bounds.least ≤ (c.gather 0 st.tokens.remaining).length
  · have henough : c.enough st.tokens.remaining = true := decide_eq_true he
    rw [if_pos he]
    simp only [Step.bind_apply, Step.get_apply, hsave, Content.tokens_under, htokens, hrun, henough,
      if_true, hdismiss]
    rfl
  · have henough : c.enough st.tokens.remaining = false := decide_eq_false he
    rw [if_neg he]
    simp only [Step.bind_apply, Step.get_apply, hsave, Content.tokens_under, htokens, hrun, henough,
      Bool.false_eq_true, if_false, hrestore]
    rfl

end Collector

/-- Where its owner is free, a rule that takes values, such as those of `Rule.setAttribute` and
`Rule.appendToAttribute`, takes as many of the leading tokens as it may. If these are as many as its
lower bound asks for, it matches: it has consumed them and nothing else, and its handler gets their
values. Otherwise it leaves everything as it was. -/
theorem Rule.run_collect_greedy (c : Collector) (handler : Handler) (st : State)
    (hfree : ∀ sp ∈ st.savepoints, sp.owner ≠ .rule c.id) :
    ∃ k taken, IsGreatest {k | c.Admits st.tokens.remaining k} k ∧
      st.Records taken ∧
      taken.content = { st.content with tokens.cursor := st.tokens.cursor + k } ∧
      (c.bounds.least ≤ k → (Rule.collect c handler).run st =
        .ok true (handler.apply taken c.dest
          (.list (c.received (st.tokens.remaining.take k))))) ∧
      (k < c.bounds.least → ∃ st', (Rule.collect c handler).run st = .ok false st' ∧
        st.Records st' ∧ st'.content = st.content) := by
  have hcollect := Collector.collect_eq_consume hfree
  obtain ⟨hrecords, hcontent⟩ := State.Records.of_recorded (c.recorded_after st.content)
  refine ⟨_, _, c.isGreatest_length_gather st.tokens.remaining, hrecords, hcontent,
    fun henough => ?_, fun hfew => ?_⟩
  · rw [if_pos henough] at hcollect
    rw [run, collectStep, Step.bind_apply, hcollect, ← c.stored_gather]
    rfl
  · rw [if_neg (Nat.not_le.mpr hfew)] at hcollect
    have hrun : ∃ sps, collectStep c handler st = .ok false (st.content.under sps) := by
      rw [collectStep, Step.bind_apply, hcollect]
      exact ⟨_, rfl⟩
    obtain ⟨sps, hrun⟩ := hrun
    obtain ⟨hord, hback⟩ := collectStep_eq_false hrun
    exact ⟨_, by rw [run, hrun], hord.records, hback⟩

/-- Takes up to three words of at most two characters. The first one may look like a flag. -/
def shortWords : Collector where
  id := 7
  dest := "words"
  bounds := ⟨1, some 3⟩
  filter := {
    valueType := some (.custom fun token => if token.length ≤ 2 then some (.str token) else none)
    prefixChars := "-" }

/-- The first word is taken for the lower bound, the second one is no flag, and the third one has no
value. The loop has a savepoint open meanwhile. -/
theorem Rule.run_collect_greedy_shortWords :
    ∃ st', (Rule.collect shortWords .set).run
        ((State.start ["-a", "b", "long"] none).opened .driver) = .ok true st' ∧
      st'.tokens.remaining = ["long"] ∧
      st'.attribute? "words" = some (.list [.str "-a", .str "b"]) := by
  obtain ⟨k, taken, hk, -, hcontent, hrun, -⟩ := run_collect_greedy shortWords .set
    ((State.start ["-a", "b", "long"] none).opened .driver)
    (by simp [State.opened, State.start, Savepoint.fresh])
  have hgather : (shortWords.gather 0 ["-a", "b", "long"]).length = 2 := by decide
  obtain rfl : k = 2 :=
    hk.unique (hgather ▸ shortWords.isGreatest_length_gather ["-a", "b", "long"])
  have hvalues : shortWords.received ["-a", "b"] = [.str "-a", .str "b"] := by decide
  refine ⟨_, hrun (by decide), ?_, ?_⟩
  · have htokens : taken.tokens = ⟨["-a", "b", "long"], 2⟩ := congrArg Content.tokens hcontent
    show taken.tokens.remaining = _
    rw [htokens]
    rfl
  · show (taken.set "words" (.list (shortWords.received ["-a", "b"]))).attribute? "words" = _
    rw [State.attribute?_set, if_pos rfl, hvalues]

end TokenGrammar
