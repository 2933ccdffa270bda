import Mathlib.Data.List.Basic
import TokenGrammar.Proofs.Recording
import TokenGrammar.Proofs.RuleTree

/-!
# Steps in isolation

A step that gives the same from a content whatever savepoints are open, as long as their owners are
free for it, and that only records in them (`Step.Acts`). So what it does alone it does under any
savepoints, and it never fails.

* `Step.Acts.bind`, `Step.Acts.attempt` and their like: the steps that rules are made of act if
  their parts do, with what they give and leave in terms of the parts;
* `Step.Acts.notStep`, `Step.Acts.captureStep`, `Step.acts_collectStep` and the others: the same
  for the steps of single rules;
* `Recording.consumedTokens_eq`: a capture reads the tokens that were consumed as they were spelled
  before, through all that was replaced and recorded meanwhile.
-/

namespace TokenGrammar

/-! ## Savepoints on top of others -/

namespace Content

variable {c : Content} {sps : List Savepoint} {owner : Owner}

theorem save_under (hfree : ∀ sp ∈ sps, sp.owner ≠ owner) :
    State.save owner (c.under sps) = .ok ⟨sps.length⟩ (c.under (.fresh owner :: sps)) := by
  rw [State.save_eq, if_neg]
  · rfl
  · simpa using hfree

theorem pop_under (c : Content) (sp : Savepoint) (sps : List Savepoint) :
    State.pop ⟨sps.length⟩ (c.under (sp :: sps)) = .ok sp (c.under sps) := by
  rw [State.pop_eq]
  exact if_pos rfl

theorem dismiss_under (c : Content) (sp : Savepoint) (sps : List Savepoint) :
    State.dismiss ⟨sps.length⟩ (c.under (sp :: sps)) = .ok () (c.under sps) := by
  rw [State.dismiss_eq, pop_under]

theorem restore_under (c : Content) (sp : Savepoint) (sps : List Savepoint) :
    State.restore ⟨sps.length⟩ (c.under (sp :: sps)) = .ok () ((c.rollBack sp).under sps) := by
  rw [State.restore_eq, pop_under]
  rfl

/-- What was consumed since a savepoint was opened does not depend on the older ones. -/
theorem consumedTokens_under (c : Content) (sp : Savepoint) (sps : List Savepoint) :
    (c.under (sp :: sps)).consumedTokens ⟨sps.length⟩ = (c.under [sp]).consumedTokens ⟨0⟩ := by
  have htop : (sp :: sps).reverse[sps.length]? = some sp := by simp
  simp only [State.consumedTokens, savepoints_under, tokens_under, htop]
  rfl

end Content

/-! ## What is consumed between opening and releasing -/

namespace TokenBuffer

theorem isSome_at? (b : TokenBuffer) (p : Nat) : (b.at? p).isSome ↔ p < b.tokens.length := by
  simp [at?]

theorem remaining_take (b : TokenBuffer) (n : Nat) :
    b.remaining.take n = (List.range' b.cursor n).filterMap b.at? := by
  induction n generalizing b with
  | zero => rfl
  | succ n ih =>
    rw [List.range'_succ, List.filterMap_cons]
    cases h : b.at? b.cursor with
    | none =>
      have hlen : b.tokens.length ≤ b.cursor := List.getElem?_eq_none_iff.mp h
      have : (List.range' (b.cursor + 1) n).filterMap b.at? = [] := by
        refine List.filterMap_eq_nil_iff.mpr fun p hp => ?_
        have := (List.mem_range'_1.mp hp).1
        exact List.getElem?_eq_none_iff.mpr (by omega)
      simp only [this, remaining, List.drop_eq_nil_of_le hlen, List.take_nil]
    | some token =>
      have hdrop : b.tokens.drop b.cursor = token :: b.tokens.drop (b.cursor + 1) := by
        obtain ⟨hlt, heq⟩ := List.getElem?_eq_some_iff.mp h
        rw [← heq, List.drop_eq_getElem_cons hlt]
      have := ih { b with cursor := b.cursor + 1 }
      simp only [remaining] at this ⊢
      rw [hdrop, List.take_succ_cons, this]
      rfl

end TokenBuffer

/-- A savepoint that puts back a content knows how the tokens were spelled there: those between its
cursor and the current one are read as they were. -/
theorem State.consumedTokens_of_rollBack {st : State} {handle : Handle} {sp : Savepoint}
    {c : Content} (hsp : st.savepoints.reverse[handle.depth]? = some sp)
    (hback : st.content.rollBack sp = c) (hmove : c.tokens.cursor < st.tokens.cursor)
    (hend : st.tokens.cursor ≤ st.tokens.tokens.length) :
    st.consumedTokens handle =
      c.tokens.remaining.take (st.tokens.cursor - c.tokens.cursor) := by
  have htokens : sp.tokensFrom st.tokens = c.tokens := congrArg Content.tokens hback
  obtain hn | ⟨s, hs⟩ := Option.eq_none_or_eq_some sp.tokens
  · rw [Savepoint.tokensFrom_none hn] at htokens
    rw [htokens] at hmove
    exact absurd hmove (Nat.lt_irrefl _)
  have hcursor : c.tokens.cursor = s.cursor := by
    rw [← htokens]
    exact Savepoint.cursor_tokensFrom hs _
  -- within the buffer the recorded spelling, or else the current one, is the spelling of before
  have hspell (p : Nat) (hp : p < st.tokens.cursor) :
      (s.firstSpelling? p <|> st.tokens.at? p) = c.tokens.at? p := by
    have hat : st.tokens.at? p = some st.tokens.tokens[p] := List.getElem?_eq_getElem (by omega)
    rw [← htokens]
    simp only [Savepoint.at?_tokensFrom hs, hat, Option.map_some]
    cases s.firstSpelling? p <;> rfl
  obtain ⟨leading, hleading⟩ : ∃ leading, c.tokens.at? c.tokens.cursor = some leading := by
    have hat := (st.tokens.isSome_at? c.tokens.cursor).mpr (by omega)
    rw [← Option.isSome_iff_exists, ← hspell _ hmove]
    cases s.firstSpelling? c.tokens.cursor with
    | none => exact hat
    | some first => rfl
  rw [TokenBuffer.remaining_take]
  simp only [State.consumedTokens, hsp, Option.bind_eq_bind, Option.bind_some, hs, ← hcursor,
    hspell _ hmove, hleading]
  rw [if_neg (by omega)]
  refine List.filterMap_congr fun p hp => hspell p ?_
  have := List.mem_range'_1.mp hp
  omega

namespace Recording

variable {f : Savepoint → Savepoint} {c d : Content}

theorem length_tokens (h : Recording f c d) : d.tokens.tokens.length = c.tokens.tokens.length := by
  have hback := congrArg Content.tokens (h.rollBack_fresh .driver)
  obtain hn | ⟨s, hs⟩ := Option.eq_none_or_eq_some (f (.fresh .driver)).tokens
  · rw [← hback]
    simp only [Content.rollBack, Savepoint.tokensFrom_none hn]
  · have hsome (p : Nat) : p < d.tokens.tokens.length ↔ p < c.tokens.tokens.length := by
      rw [← TokenBuffer.isSome_at?, ← TokenBuffer.isSome_at?, ← hback]
      simp only [Content.rollBack, Savepoint.at?_tokensFrom hs, Option.isSome_map]
    have h1 := hsome c.tokens.tokens.length
    have h2 := hsome d.tokens.tokens.length
    omega

/-- The tokens that were consumed since a savepoint was opened are read as they were spelled
then. -/
theorem consumedTokens_eq {owner : Owner} (h : Recording f c d) (sps : List Savepoint)
    (hmove : c.tokens.cursor < d.tokens.cursor)
    (hend : d.tokens.cursor ≤ d.tokens.tokens.length) :
    (d.under (f (.fresh owner) :: sps)).consumedTokens ⟨sps.length⟩ =
      c.tokens.remaining.take (d.tokens.cursor - c.tokens.cursor) :=
  State.consumedTokens_of_rollBack (by simp) (h.rollBack_fresh owner) hmove hend

end Recording

/-! ## Steps that act on contents -/

/-- From the content `c` the step gives `a` and leaves `d`, whatever savepoints are open, as long as
their owners are free. -/
def Step.Acts {α : Type} (step : Step α) (free : Owner → Prop) (c : Content) (a : α)
    (d : Content) : Prop :=
  ∃ f, Recording f c d ∧
    ∀ sps : List Savepoint, (∀ sp ∈ sps, free sp.owner) →
      step (c.under sps) = .ok a (d.under (sps.map f))

namespace Step.Acts

variable {α β : Type} {free inner : Owner → Prop} {c d e : Content}

theorem pure (a : α) : Acts (Pure.pure a) free c a c :=
  ⟨id, .refl c, fun sps _ => by rw [List.map_id]; rfl⟩

theorem bind {x : Step α} {k : α → Step β} {a : α} {b : β} (hx : Acts x free c a d)
    (hk : Acts (k a) free d b e) : Acts (x >>= k) free c b e := by
  obtain ⟨f, hf, hxrun⟩ := hx
  obtain ⟨g, hg, hkrun⟩ := hk
  refine ⟨g ∘ f, hf.trans hg, fun sps hfree => ?_⟩
  have hstill : ∀ sp ∈ sps.map f, free sp.owner := by
    rintro _ hsp
    obtain ⟨sp, hmem, rfl⟩ := List.mem_map.mp hsp
    rw [hf.owner]
    exact hfree sp hmem
  rw [Step.bind_apply, hxrun sps hfree]
  simp only
  rw [hkrun _ hstill, List.map_map]

/-- A step that looks at the state acts if what it does then depends on the content only. -/
theorem get {k : State → Step α} {x : Step α} {a : α} (hx : Acts x free c a d)
    (hk : ∀ sps, k (c.under sps) = x) : Acts (MonadState.get >>= k) free c a d := by
  obtain ⟨f, hf, hrun⟩ := hx
  refine ⟨f, hf, fun sps hfree => ?_⟩
  show k (c.under sps) (c.under sps) = _
  rw [hk, hrun sps hfree]

theorem of_modify {op : State → State} (h : Recorded op c d) :
    Acts (modify op : Step Unit) free c () d := by
  obtain ⟨f, hf, hop⟩ := h
  exact ⟨f, hf, fun sps _ => congrArg (EStateM.Result.ok ()) (hop sps)⟩

theorem of_modify_pure {op : State → State} (h : Recorded op c d) (a : α) :
    Acts (do modify op; Pure.pure a) free c a d :=
  (of_modify h).bind (.pure a)

theorem mono {x : Step α} {a : α} (h : Acts x inner c a d) (hsub : ∀ o, free o → inner o) :
    Acts x free c a d := by
  obtain ⟨f, hf, hrun⟩ := h
  exact ⟨f, hf, fun sps hfree => hrun sps fun sp hsp => hsub _ (hfree sp hsp)⟩

/-- What a step does where no savepoint is open. -/
theorem run_alone {x : Step α} {a : α} (h : Acts x free c a d) :
    x (c.under []) = .ok a (d.under []) := by
  obtain ⟨f, -, hrun⟩ := h
  exact hrun [] fun sp hsp => nomatch hsp

/-- A step with a savepoint of its own below it: what opening, running and both ways of releasing
give. The owner is free inside, and has no savepoint yet. -/
theorem scope {owner : Owner} {x : Step α} {a : α} (h : Acts x inner c a d)
    (howner : inner owner) (hsub : ∀ o, free o → inner o ∧ o ≠ owner) :
    ∃ f, Recording f c d ∧
      ∀ sps : List Savepoint, (∀ sp ∈ sps, free sp.owner) →
        State.save owner (c.under sps) = .ok ⟨sps.length⟩ (c.under (.fresh owner :: sps)) ∧
        x (c.under (.fresh owner :: sps)) = .ok a (d.under (f (.fresh owner) :: sps.map f)) ∧
        State.dismiss ⟨sps.length⟩ (d.under (f (.fresh owner) :: sps.map f)) =
          .ok () (d.under (sps.map f)) ∧
        State.restore ⟨sps.length⟩ (d.under (f (.fresh owner) :: sps.map f)) =
          .ok () (c.under (sps.map f)) := by
  obtain ⟨f, hf, hrun⟩ := h
  refine ⟨f, hf, fun sps hfree => ⟨Content.save_under fun sp hsp => (hsub _ (hfree sp hsp)).2,
    hrun _ fun sp hsp => ?_, ?_, ?_⟩⟩
  · rcases List.mem_cons.mp hsp with rfl | hsp
    · exact howner
    · exact (hsub _ (hfree sp hsp)).1
  · have hdismiss := d.dismiss_under (f (.fresh owner)) (sps.map f)
    rwa [List.length_map] at hdismiss
  · have hrestore := d.restore_under (f (.fresh owner)) (sps.map f)
    rwa [List.length_map, hf.rollBack_fresh] at hrestore

theorem attempt {owner : Owner} {x : Step Bool} {a : Bool} (h : Acts x inner c a d)
    (howner : inner owner) (hsub : ∀ o, free o → inner o ∧ o ≠ owner) :
    Acts (State.attempt owner x) free c a (if a then d else c) := by
  obtain ⟨f, hf, hscope⟩ := h.scope howner hsub
  cases a with
  | true =>
    refine ⟨f, hf, fun sps hfree => ?_⟩
    obtain ⟨hsave, hrun, hdismiss, -⟩ := hscope sps hfree
    simp only [State.attempt, Step.bind_apply, hsave, hrun, if_true, hdismiss]
    rfl
  | false =>
    refine ⟨f, hf.undo, fun sps hfree => ?_⟩
    obtain ⟨hsave, hrun, -, hrestore⟩ := hscope sps hfree
    simp only [State.attempt, Step.bind_apply, hsave, hrun, Bool.false_eq_true, if_false, hrestore]
    rfl

theorem notStep {id : Nat} {x : Step Bool} {a : Bool} (h : Acts x inner c a d)
    (howner : inner (.rule id)) (hsub : ∀ o, free o → inner o ∧ o ≠ .rule id) :
    Acts (Rule.notStep id x) free c (!a) c := by
  obtain ⟨f, hf, hscope⟩ := h.scope howner hsub
  refine ⟨f, hf.undo, fun sps hfree => ?_⟩
  obtain ⟨hsave, hrun, -, hrestore⟩ := hscope sps hfree
  simp only [Rule.notStep, Step.bind_apply, hsave, hrun, hrestore]
  rfl

/-- A capture that matches writes the tokens that were consumed. Where at least one was, they are
those in front of the cursor as it was before, as they were spelled then. -/
theorem captureStep {id : Nat} {dests : List String} {format : Option RawFormat}
    {handler : Handler} {x : Step Bool} (h : Acts x inner c true d)
    (howner : inner (.rule id)) (hsub : ∀ o, free o → inner o ∧ o ≠ .rule id) :
    ∃ consumed,
      (c.tokens.cursor < d.tokens.cursor → d.tokens.cursor ≤ d.tokens.tokens.length →
        consumed = c.tokens.remaining.take (d.tokens.cursor - c.tokens.cursor)) ∧
      ∀ e, Recorded (handler.applyAll (RawFormat.writes dests format consumed)) d e →
        Acts (Rule.captureStep id dests format handler x) free c true e := by
  obtain ⟨f, hf, hscope⟩ := h.scope howner hsub
  refine ⟨(d.under [f (.fresh (.rule id))]).consumedTokens ⟨0⟩,
    fun hmove hend => hf.consumedTokens_eq [] hmove hend, fun e he => ?_⟩
  obtain ⟨g, hg, hop⟩ := he
  refine ⟨g ∘ f, hf.trans hg, fun sps hfree => ?_⟩
  obtain ⟨hsave, hrun, hdismiss, -⟩ := hscope sps hfree
  have hconsumed := d.consumedTokens_under (f (.fresh (.rule id))) (sps.map f)
  rw [List.length_map] at hconsumed
  simp only [Rule.captureStep, Step.bind_apply, Step.get_apply, hsave, hrun, if_true, hconsumed,
    hdismiss]
  rw [← List.map_map, ← hop, Handler.record_apply]

theorem captureStep_false {id : Nat} {dests : List String} {format : Option RawFormat}
    {handler : Handler} {x : Step Bool} (h : Acts x inner c false d)
    (howner : inner (.rule id)) (hsub : ∀ o, free o → inner o ∧ o ≠ .rule id) :
    Acts (Rule.captureStep id dests format handler x) free c false c := by
  obtain ⟨f, hf, hscope⟩ := h.scope howner hsub
  refine ⟨f, hf.undo, fun sps hfree => ?_⟩
  obtain ⟨hsave, hrun, -, hrestore⟩ := hscope sps hfree
  simp only [Rule.captureStep, Step.bind_apply, hsave, hrun, Bool.false_eq_true, if_false, hrestore]
  rfl

end Step.Acts

/-! ## The steps of single rules -/

namespace Collector

theorem length_gather_le (collector : Collector) (count : Nat) (tokens : List String) :
    (collector.gather count tokens).length ≤ tokens.length := by
  induction tokens generalizing count with
  | nil => exact Nat.le_refl 0
  | cons token rest ih =>
    rw [gather]
    split
    · exact Nat.zero_le _
    · split
      · exact Nat.zero_le _
      · split
        · exact Nat.zero_le _
        · exact Nat.succ_le_succ (ih _)

theorem recorded_consume {c : Content} {n : Nat} (h : n ≤ c.tokens.size) :
    Recorded (consume n) c { c with tokens.cursor := c.tokens.cursor + n } := by
  cases n with
  | zero => exact .refl c
  | succ n =>
    have htake : c.tokens.take? (n + 1) =
        some (c.tokens.remaining.take (n + 1),
          { c.tokens with cursor := c.tokens.cursor + (n + 1) }) := if_neg (by omega)
    refine ⟨_, .take htake, fun sps => ?_⟩
    rw [consume, if_neg (Nat.succ_ne_zero n), State.next?, Content.tokens_under, htake]
    rfl

/-- The content after the values of a collector are consumed. -/
def after (collector : Collector) (c : Content) : Content :=
  { c with tokens.cursor := c.tokens.cursor + (collector.gather 0 c.tokens.remaining).length }

theorem recorded_after (collector : Collector) (c : Content) :
    Recorded (consume (collector.gather 0 c.tokens.remaining).length) c (collector.after c) := by
  refine recorded_consume ?_
  rw [← c.tokens.length_remaining]
  exact collector.length_gather_le 0 _

variable {collector : Collector} {free : Owner → Prop} {c : Content}

theorem acts_collect (hfree : ∀ o, free o → o ≠ .rule collector.id) :
    collector.collect.Acts free c
      (if collector.enough c.tokens.remaining then
        some (collector.stored (collector.gather 0 c.tokens.remaining)) else none)
      (if collector.enough c.tokens.remaining then collector.after c else c) := by
  have hconsume : Step.Acts (modify (consume (collector.gather 0 c.tokens.remaining).length))
      (fun _ => True) c () (collector.after c) :=
    .of_modify (collector.recorded_after c)
  have hsub : ∀ o, free o → True ∧ o ≠ .rule collector.id := fun o ho => ⟨trivial, hfree o ho⟩
  obtain ⟨f, hf, hscope⟩ := hconsume.scope trivial hsub
  rw [collect_eq]
  cases he : collector.enough c.tokens.remaining with
  | true =>
    refine ⟨f, hf, fun sps hfree => ?_⟩
    obtain ⟨hsave, hrun, hdismiss, -⟩ := hscope sps hfree
    simp only [Step.bind_apply, Step.get_apply, hsave, Content.tokens_under, hrun, he, if_true,
      hdismiss]
    rfl
  | false =>
    refine ⟨f, hf.undo, fun sps hfree => ?_⟩
    obtain ⟨hsave, hrun, -, hrestore⟩ := hscope sps hfree
    simp only [Step.bind_apply, Step.get_apply, hsave, Content.tokens_under, hrun, he,
      Bool.false_eq_true, if_false, hrestore]
    rfl

end Collector

/-- How many times a limit has matched, from the kept values. -/
def Scratch.count (s : Scratch) (id : Nat) : Int64 :=
  ((s.get? (.rule id) Rule.counterKey).bind Value.asInt?).getD 0

namespace Rule

variable {free : Owner → Prop} {c d : Content}

theorem acts_onNext (p : String → Bool) : (onNext p).Acts free c (c.tokens.head?.any p) c := by
  rw [onNext_eq]
  exact .get (.pure _) fun _ => rfl

theorem acts_replaceNext_none {f : String → Option String}
    (h : c.tokens.head?.bind f = none) : (replaceNext f).Acts free c false c := by
  rw [replaceNext_eq]
  refine .get (.pure false) fun sps => ?_
  have hnext : (c.under sps).tokens.head?.bind f = none := h
  rw [hnext]

theorem acts_replaceNext_some {f : String → Option String} {token : String}
    (h : c.tokens.head?.bind f = some token) :
    (replaceNext f).Acts free c true
      { c with tokens := c.tokens.replace c.tokens.front token } := by
  rw [replaceNext_eq]
  refine .get (Step.Acts.of_modify_pure (.respell_front c token) true) fun sps => ?_
  have hnext : (c.under sps).tokens.head?.bind f = some token := h
  rw [hnext]

theorem acts_skip_none {n : Nat} (h : c.tokens.take? n = none) :
    (run (.skip n)).Acts free c false c := by
  rw [run]
  refine .get (.pure false) fun sps => ?_
  rw [State.next?, Content.tokens_under, h]
  rfl

theorem acts_skip_some {n : Nat} {taken : List String} {b : TokenBuffer}
    (h : c.tokens.take? n = some (taken, b)) :
    (run (.skip n)).Acts free c true { c with tokens := b } := by
  refine ⟨_, .take h, fun sps _ => ?_⟩
  rw [run, Step.get_bind, State.next?, Content.tokens_under, h]
  rfl

theorem acts_limitStep (id : Nat) (most : Option Nat) :
    (limitStep id most).Acts free c (!most.any (Int64.ofNat · ≤ c.scratch.count id))
      (if most.any (Int64.ofNat · ≤ c.scratch.count id) then c
      else { c with
        scratch := c.scratch.set (.rule id) counterKey (.int (c.scratch.count id + 1)) }) := by
  cases h : most.any (Int64.ofNat · ≤ c.scratch.count id) with
  | true =>
    refine .get (.pure false) fun sps => ?_
    exact if_pos h
  | false =>
    refine .get (Step.Acts.of_modify_pure (.store c (.rule id) counterKey _) true) fun sps => ?_
    exact if_neg (Bool.eq_false_iff.mp h)

theorem acts_collectStep {collector : Collector} {handler : Handler}
    (hfree : ∀ o, free o → o ≠ .rule collector.id)
    (he : collector.enough c.tokens.remaining = true)
    (hwrite : Recorded (handler.apply · collector.dest
      (.list (collector.stored (collector.gather 0 c.tokens.remaining)))) (collector.after c) d) :
    (collectStep collector handler).Acts free c true d := by
  have hcollect := Collector.acts_collect (c := c) hfree
  rw [he] at hcollect
  exact hcollect.bind (Step.Acts.of_modify_pure hwrite true)

theorem acts_collectStep_false {collector : Collector} {handler : Handler}
    (hfree : ∀ o, free o → o ≠ .rule collector.id)
    (he : collector.enough c.tokens.remaining = false) :
    (collectStep collector handler).Acts free c false c := by
  have hcollect := Collector.acts_collect (c := c) hfree
  rw [he] at hcollect
  exact hcollect.bind (.pure false)

end Rule

/-! ## Trees of rules -/

/-- A handler that writes by the operations of a state, the same whatever savepoints are open. -/
def Handler.Local (handler : Handler) : Prop :=
  ∀ dest value c, ∃ d, Recorded (handler.apply · dest value) c d

theorem Handler.local_of_builtIn {handler : Handler} (h : handler.BuiltIn) : handler.Local :=
  fun dest value c => ⟨_, .apply h c dest value⟩

theorem Handler.Local.applyAll {handler : Handler} (h : handler.Local)
    (writes : List (String × Value)) (c : Content) :
    ∃ d, Recorded (handler.applyAll writes) c d := by
  induction writes generalizing c with
  | nil => exact ⟨c, .refl c⟩
  | cons w ws ih =>
    obtain ⟨d, hd⟩ := h w.1 w.2 c
    obtain ⟨e, he⟩ := ih d
    exact ⟨e, hd.trans he⟩

namespace Rule

variable {free inner : Owner → Prop}

theorem exists_acts_runAll {rules : List Rule}
    (hrules : ∀ r ∈ rules, ∀ c, ∃ a d, r.run.Acts free c a d) (c : Content) :
    ∃ a d, (runAll rules).Acts free c a d := by
  induction rules generalizing c with
  | nil =>
    rw [runAll]
    exact ⟨true, c, .pure true⟩
  | cons rule rules ih =>
    obtain ⟨hrule, hrest⟩ := List.forall_mem_cons.mp hrules
    obtain ⟨a, d, hacts⟩ := hrule c
    rw [runAll]
    cases a with
    | true =>
      obtain ⟨b, e, hall⟩ := ih hrest d
      exact ⟨b, e, hacts.bind hall⟩
    | false => exact ⟨false, d, hacts.bind (.pure false)⟩

/-- The state after a rule that is run alone, if it matches. -/
def alone (rule : Rule) (st : State) : Option State :=
  match rule.run st with
  | .ok true st' => some st'
  | _ => none

theorem alone_of_acts {rule : Rule} {c d : Content} (h : rule.run.Acts free c true d) :
    rule.alone (c.under []) = some (d.under []) := by
  rw [alone, h.run_alone]

theorem alone_of_acts_false {rule : Rule} {c d : Content} (h : rule.run.Acts free c false d) :
    rule.alone (c.under []) = none := by
  rw [alone, h.run_alone]

/-- The state after the first of the rules that matches when it is run alone. -/
def firstMatch (rules : List Rule) (st : State) : Option State := rules.findSome? (·.alone st)

/-- A choice does what the first rule does that matches alone. -/
theorem acts_runAny {owner : Owner} {rules : List Rule}
    (hrules : ∀ r ∈ rules, ∀ c, ∃ a d, r.run.Acts inner c a d) (howner : inner owner)
    (hsub : ∀ o, free o → inner o ∧ o ≠ owner) (c : Content) :
    (firstMatch rules (c.under []) = none ∧ (runAny owner rules).Acts free c false c) ∨
      ∃ d, firstMatch rules (c.under []) = some (d.under []) ∧
        (runAny owner rules).Acts free c true d := by
  induction rules with
  | nil =>
    rw [runAny]
    exact .inl ⟨rfl, .pure false⟩
  | cons rule rules ih =>
    obtain ⟨hrule, hrest⟩ := List.forall_mem_cons.mp hrules
    obtain ⟨a, d, hacts⟩ := hrule c
    have hattempt := hacts.attempt howner hsub
    obtain ⟨f, -, hrun⟩ := hacts
    have halone : rule.run (c.under []) = .ok a (d.under []) := hrun [] (by simp)
    rw [runAny, firstMatch, List.findSome?_cons, alone, halone]
    cases a with
    | true => exact .inr ⟨d, rfl, hattempt.bind (.pure true)⟩
    | false =>
      obtain ⟨hnone, hany⟩ | ⟨e, hsome, hany⟩ := ih hrest
      · exact .inl ⟨hnone, hattempt.bind hany⟩
      · exact .inr ⟨e, hsome, hattempt.bind hany⟩

/-- A tree of library rules acts on contents, and leaves the content as it was if it does not
match. -/
theorem Library.exists_acts {rule : Rule} (h : rule.Library Handler.Local) (hapart : rule.Apart)
    (c : Content) : ∃ a d, (a = false → d = c) ∧ rule.run.Acts rule.Avoids c a d := by
  induction h generalizing c with
  | @intro rule root _ ih =>
    have hsubs : ∀ r ∈ rule.subrules, ∀ c,
        ∃ a d, r.run.Acts (fun o => ∀ q ∈ rule.subrules, q.Avoids o) c a d := by
      intro r hr c
      obtain ⟨a, d, -, hacts⟩ := ih r hr (hapart.subs r hr) c
      exact ⟨a, d, hacts.mono fun o ho => ho r hr⟩
    have hreplace (f : String → Option String) :
        ∃ a d, (a = false → d = c) ∧ (replaceNext f).Acts rule.Avoids c a d := by
      cases hf : c.tokens.head?.bind f with
      | none => exact ⟨false, c, fun _ => rfl, acts_replaceNext_none hf⟩
      | some token => exact ⟨true, _, nofun, acts_replaceNext_some hf⟩
    cases rule with
    | skip n =>
      cases hn : c.tokens.take? n with
      | none => exact ⟨false, c, fun _ => rfl, acts_skip_none hn⟩
      | some taken => exact ⟨true, _, nofun, acts_skip_some hn⟩
    | check p =>
      rw [run]
      exact ⟨_, c, fun _ => rfl, acts_onNext p⟩
    | isIn words fold =>
      rw [run]
      exact ⟨_, c, fun _ => rfl, acts_onNext _⟩
    | isEmpty =>
      rw [run]
      exact ⟨_, c, fun _ => rfl, acts_onNext _⟩
    | not id rule =>
      obtain ⟨howner, hsub⟩ := hapart.scope rfl
      obtain ⟨a, d, hacts⟩ := hsubs rule List.mem_cons_self c
      rw [run]
      exact ⟨!a, c, fun _ => rfl, hacts.notStep howner hsub⟩
    | replace f =>
      rw [run]
      exact hreplace f
    | removePrefix prefixes fold =>
      rw [run]
      exact hreplace _
    | all id rules =>
      obtain ⟨howner, hsub⟩ := hapart.scope rfl
      obtain ⟨a, d, hacts⟩ := exists_acts_runAll hsubs c
      rw [run]
      refine ⟨a, _, fun ha => ?_, hacts.attempt howner hsub⟩
      rw [ha]
      rfl
    | any id rules =>
      obtain ⟨howner, hsub⟩ := hapart.scope rfl
      rw [run]
      obtain ⟨-, hany⟩ | ⟨d, -, hany⟩ := acts_runAny hsubs howner hsub c
      · exact ⟨false, c, fun _ => rfl, hany⟩
      · exact ⟨true, d, nofun, hany⟩
    | limit id most =>
      rw [run]
      exact ⟨_, _, fun ha => if_pos (by simpa using ha), acts_limitStep id most⟩
    | collect collector handler =>
      obtain ⟨-, hsub⟩ := hapart.scope rfl
      have hfree : ∀ o, Avoids (.collect collector handler) o → o ≠ .rule collector.id :=
        fun o ho => (hsub o ho).2
      rw [run]
      cases he : collector.enough c.tokens.remaining with
      | false => exact ⟨false, c, fun _ => rfl, acts_collectStep_false hfree he⟩
      | true =>
        obtain ⟨d, hd⟩ := root collector.dest
          (.list (collector.stored (collector.gather 0 c.tokens.remaining))) (collector.after c)
        exact ⟨true, d, nofun, acts_collectStep hfree he hd⟩
    | capture id dests rule format handler =>
      obtain ⟨howner, hsub⟩ := hapart.scope rfl
      obtain ⟨a, d, hacts⟩ := hsubs rule List.mem_cons_self c
      rw [run]
      cases a with
      | false => exact ⟨false, c, fun _ => rfl, hacts.captureStep_false howner hsub⟩
      | true =>
        obtain ⟨consumed, -, hwrite⟩ := hacts.captureStep howner hsub
        obtain ⟨e, he⟩ := Handler.Local.applyAll root (RawFormat.writes dests format consumed) d
        exact ⟨true, e, nofun, hwrite e he⟩
    | custom step => exact root.elim

/-- A tree of library rules never fails where its owners are free, and what it does alone it does
under any savepoints. -/
theorem Library.acts {rule : Rule} (h : rule.Library Handler.Local) (hapart : rule.Apart)
    (c : Content) : ∃ a d, rule.run.Acts rule.Avoids c a d := by
  obtain ⟨a, d, -, hacts⟩ := h.exists_acts hapart c
  exact ⟨a, d, hacts⟩

/-- The rules below a rule act on contents, whatever is free for all of them. -/
theorem Library.exists_acts_subs {rule : Rule} (h : rule.Library Handler.Local)
    (hapart : rule.Apart) : ∀ r ∈ rule.subrules, ∀ c,
      ∃ a d, r.run.Acts (fun o => ∀ q ∈ rule.subrules, q.Avoids o) c a d := by
  intro r hr c
  obtain ⟨a, d, hacts⟩ := (h.subs r hr).acts (hapart.subs r hr) c
  exact ⟨a, d, hacts.mono fun o ho => ho r hr⟩

end Rule

end TokenGrammar
