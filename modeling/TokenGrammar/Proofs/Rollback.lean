import TokenGrammar.Proofs.Recording
import TokenGrammar.Proofs.RuleTree

/-!
# Rolling back

A rule that fails leaves nothing behind, whatever the rules below it did before. Those may be any
steps that use the operations of a state and release each savepoint that they opened, and no other
(`State.Orderly`, `Step.Orderly`).

* `State.Orderly.records`: an orderly run is a recording, by induction on the run. A savepoint
  released in it has recorded what the older ones have recorded too, so that rolling it back is a
  recording again;
* `State.attempt_eq_ok`, `Rule.notStep_eq_ok`, `Rule.captureStep_eq_ok`, `Collector.collect_eq_ok`:
  what the steps with a savepoint of their own do, in the order in which they do it;
* `Rule.Each.orderly`: a tree of rules is orderly if what it has of the user's making is.
  `Rule.Library.orderly`: a tree with nothing of the user's making is;
* `Rule.unchanged_of_takesBack`: a failed rule, and a lookahead in either case, leaves the content
  of the state and the owners of the open savepoints as they were.
-/

namespace TokenGrammar

/-! ## Steps that end well -/

namespace Step

variable {α β : Type}

theorem bind_eq_ok {x : Step α} {f : α → Step β} {st st' : State} {b : β} :
    (x >>= f) st = .ok b st' ↔ ∃ a mid, x st = .ok a mid ∧ f a mid = .ok b st' := by
  rw [bind_apply]
  cases x st with
  | ok a mid => exact ⟨fun h => ⟨a, mid, rfl, h⟩, fun ⟨_, _, hx, h⟩ => by cases hx; exact h⟩
  | error e mid => exact ⟨fun h => (nomatch h), fun ⟨_, _, hx, _⟩ => (nomatch hx)⟩

theorem modify_eq_ok {f : State → State} {st st' : State} {u : Unit} :
    (modify f : Step Unit) st = .ok u st' ↔ st' = f st := by
  show EStateM.Result.ok () (f st) = .ok u st' ↔ _
  simp [eq_comm]

theorem pure_eq_ok {a b : α} {st st' : State} :
    (pure a : Step α) st = .ok b st' ↔ b = a ∧ st' = st := by
  show EStateM.Result.ok a st = .ok b st' ↔ _
  simp [eq_comm]

end Step

/-! ## Opening and releasing a savepoint -/

namespace State

theorem save_eq_ok {owner : Owner} {st st' : State} {handle : Handle} :
    save owner st = .ok handle st' ↔
      (∀ sp ∈ st.savepoints, sp.owner ≠ owner) ∧ handle = ⟨st.depth⟩ ∧ st' = st.opened owner := by
  rw [save_eq]
  by_cases h : st.savepoints.any (·.owner = owner)
  · rw [if_pos h]
    simp only [List.any_eq_true, decide_eq_true_eq] at h
    obtain ⟨sp, hsp, ho⟩ := h
    exact ⟨fun h => (nomatch h), fun ⟨hfree, _⟩ => absurd ho (hfree sp hsp)⟩
  · rw [if_neg h]
    simp only [List.any_eq_true, decide_eq_true_eq, not_exists, not_and] at h
    simp only [EStateM.Result.ok.injEq, eq_comm]
    exact ⟨fun heq => ⟨h, heq⟩, And.right⟩

theorem pop_eq_ok {handle : Handle} {st st' : State} {sp : Savepoint} :
    pop handle st = .ok sp st' ↔
      st.savepoints = sp :: st'.savepoints ∧ handle.depth = st'.depth ∧
        st'.content = st.content := by
  rw [pop_eq]
  cases h : st.savepoints with
  | nil => simp
  | cons top rest =>
    simp only
    split
    · rename_i hd
      simp only [EStateM.Result.ok.injEq, List.cons.injEq]
      constructor
      · rintro ⟨rfl, rfl⟩
        exact ⟨⟨rfl, rfl⟩, hd, rfl⟩
      · rintro ⟨⟨rfl, rfl⟩, -, hc⟩
        exact ⟨rfl, by rw [← hc, under_content]⟩
    · rename_i hd
      refine ⟨fun h => (nomatch h), fun ⟨hs, hh, _⟩ => absurd ?_ hd⟩
      rw [hh, depth, ← (List.cons.inj hs).2]

theorem dismiss_eq_ok {handle : Handle} {st st' : State} {u : Unit} :
    dismiss handle st = .ok u st' ↔ ∃ sp, pop handle st = .ok sp st' := by
  rw [dismiss, Step.bind_eq_ok]
  simp only [Step.pure_eq_ok, true_and]
  constructor
  · rintro ⟨sp, _, h, rfl⟩
    exact ⟨sp, h⟩
  · rintro ⟨sp, h⟩
    exact ⟨sp, _, h, rfl⟩

theorem restore_eq_ok {handle : Handle} {st st' : State} {u : Unit} :
    restore handle st = .ok u st' ↔
      ∃ sp mid, pop handle st = .ok sp mid ∧ st' = mid.rollBack sp := by
  rw [restore, Step.bind_eq_ok]
  simp only [Step.modify_eq_ok]

/-- Releases a savepoint, and keeps the changes since it was opened or takes them back. -/
def release (keep : Bool) (handle : Handle) : Step Unit :=
  if keep then dismiss handle else restore handle

theorem release_pure_eq_ok {α : Type} {keep : Bool} {handle : Handle} {st st' : State} {a b : α} :
    (release keep handle >>= fun _ => pure a : Step α) st = .ok b st' ↔
      release keep handle st = .ok () st' ∧ b = a := by
  simp only [Step.bind_eq_ok, Step.pure_eq_ok]
  exact ⟨fun ⟨_, _, h, hb, hs⟩ => ⟨hs ▸ h, hb⟩, fun ⟨h, hb⟩ => ⟨(), st', h, hb, rfl⟩⟩

/-- A savepoint that is released after a recording leaves a recording, and the older savepoints
with all that was recorded meanwhile. -/
theorem Records.release {owner : Owner} {handle : Handle} {st mid st' : State} {keep : Bool}
    {u : Unit} (h : Records (st.opened owner) mid) (hr : release keep handle mid = .ok u st') :
    Records st st' ∧ st'.content = if keep then mid.content else st.content := by
  obtain ⟨f, hf, rf⟩ := h
  cases keep with
  | true =>
    obtain ⟨sp, hp⟩ := dismiss_eq_ok.mp hr
    obtain ⟨hs, -, hc⟩ := pop_eq_ok.mp hp
    obtain ⟨-, hrest⟩ := List.cons.inj (hs.symm.trans hf)
    exact ⟨⟨f, hrest, hc ▸ rf⟩, hc⟩
  | false =>
    obtain ⟨sp, popped, hp, rfl⟩ := restore_eq_ok.mp hr
    obtain ⟨hs, -, hc⟩ := pop_eq_ok.mp hp
    obtain ⟨rfl, hrest⟩ := List.cons.inj (hs.symm.trans hf)
    have back : (popped.rollBack (f (.fresh owner))).content = st.content := by
      rw [rollBack_eq, Content.content_under, hc]
      exact rf.rollBack_fresh owner
    exact ⟨⟨f, hrest, back ▸ rf.undo⟩, back⟩

/-! ## Orderly runs -/

/-- The second state is reached from the first by the operations of a state, where each savepoint
that is opened is released, by whatever handle, and no other is. -/
inductive Orderly : State → State → Prop where
  | refl (st : State) : Orderly st st
  | next {st mid st' : State} {n : Nat} {taken : List String}
      (step : st.next? n = some (taken, mid)) (rest : Orderly mid st') : Orderly st st'
  | setToken {st mid st' : State} {index : UInt64} {token : String}
      (step : st.setToken index token = .ok mid) (rest : Orderly mid st') : Orderly st st'
  | set {st st' : State} (name : String) (value : Value)
      (rest : Orderly (st.set name value) st') : Orderly st st'
  | store {st st' : State} (owner : Owner) (key : String) (value : Value)
      (rest : Orderly (st.store owner key value) st') : Orderly st st'
  | scope {st inner mid closed st' : State} {owner : Owner} {handle released : Handle}
      {keep : Bool} (opens : save owner st = .ok handle inner) (body : Orderly inner mid)
      (closes : release keep released mid = .ok () closed) (rest : Orderly closed st') :
      Orderly st st'

namespace Orderly

variable {st mid st' : State}

theorem trans (h : Orderly st mid) (h' : Orderly mid st') : Orderly st st' := by
  induction h with
  | refl => exact h'
  | next step _ ih => exact .next step (ih h')
  | setToken step _ ih => exact .setToken step (ih h')
  | set name value _ ih => exact .set name value (ih h')
  | store owner key value _ ih => exact .store owner key value (ih h')
  | scope opens body closes _ _ ih => exact .scope opens body closes (ih h')

/-- An orderly run is a recording: the savepoints that were open before it are still open, and each
puts back what it would have put back before. -/
theorem records (h : Orderly st st') : Records st st' := by
  induction h with
  | refl st => exact .refl st
  | next step _ ih => exact (records_next step).trans ih
  | setToken step _ ih =>
    obtain ⟨_, -, hrecords, -⟩ := records_setToken step
    exact hrecords.trans ih
  | set name value _ ih => exact (Records.of_recorded (.set _ name value)).1.trans ih
  | store owner key value _ ih => exact (Records.of_recorded (.store _ owner key value)).1.trans ih
  | scope opens _ closes _ body rest =>
    obtain ⟨-, -, rfl⟩ := save_eq_ok.mp opens
    exact (body.release closes).1.trans rest

/-- A buffer stays one in memory. -/
theorem valid (h : Orderly st st') (hv : st.tokens.Valid) : st'.tokens.Valid := by
  induction h with
  | refl => exact hv
  | next step _ ih =>
    refine ih ?_
    obtain ⟨buffer, hbuffer, rfl⟩ := next?_eq_some.mp step
    exact hv.of_take hbuffer
  | @setToken _ mid _ _ _ step _ ih =>
    refine ih ?_
    obtain ⟨_, -, -, hc⟩ := records_setToken step
    rw [show mid.tokens = _ from congrArg Content.tokens hc]
    exact hv.replace _ _
  | set _ _ _ ih => exact ih hv
  | store _ _ _ _ ih => exact ih hv
  | @scope st inner mid closed st' owner handle released keep opens body closes _ hbody hrest =>
    obtain ⟨-, -, rfl⟩ := save_eq_ok.mp opens
    refine hrest ?_
    have hc := congrArg Content.tokens (body.records.release closes).2
    cases keep with
    | true => rw [show closed.tokens = mid.tokens from hc]; exact hbody hv
    | false => rw [show closed.tokens = st.tokens from hc]; exact hv

end Orderly

end State

/-! ## Steps with a savepoint of their own -/

theorem State.attempt_eq_ok {owner : Owner} {step : Step Bool} {st st' : State} {matched : Bool} :
    State.attempt owner step st = .ok matched st' ↔
      ∃ mid, State.save owner st = .ok ⟨st.depth⟩ (st.opened owner) ∧
        step (st.opened owner) = .ok matched mid ∧
        State.release matched ⟨st.depth⟩ mid = .ok () st' := by
  simp only [attempt, Step.bind_eq_ok]
  constructor
  · rintro ⟨handle, inner, hsave, found, mid, hstep, h⟩
    obtain ⟨-, rfl, rfl⟩ := save_eq_ok.mp hsave
    refine ⟨mid, hsave, ?_⟩
    cases found with
    | true =>
      simp only [if_true, Step.bind_eq_ok, Step.pure_eq_ok] at h
      obtain ⟨u, closed, hd, rfl, rfl⟩ := h
      exact ⟨hstep, hd⟩
    | false =>
      simp only [Bool.false_eq_true, if_false, Step.bind_eq_ok, Step.pure_eq_ok] at h
      obtain ⟨u, closed, hr, rfl, rfl⟩ := h
      exact ⟨hstep, hr⟩
  · rintro ⟨mid, hsave, hstep, hrel⟩
    refine ⟨_, _, hsave, matched, mid, hstep, ?_⟩
    cases matched with
    | true => exact Step.bind_eq_ok.mpr ⟨(), st', hrel, rfl⟩
    | false => exact Step.bind_eq_ok.mpr ⟨(), st', hrel, rfl⟩

namespace Rule

variable {id : Nat} {step : Step Bool} {st st' : State} {matched : Bool}

theorem notStep_eq_ok :
    notStep id step st = .ok matched st' ↔
      ∃ mid, State.save (.rule id) st = .ok ⟨st.depth⟩ (st.opened (.rule id)) ∧
        step (st.opened (.rule id)) = .ok (!matched) mid ∧
        State.release false ⟨st.depth⟩ mid = .ok () st' := by
  simp only [notStep, Step.bind_eq_ok, Step.pure_eq_ok]
  constructor
  · rintro ⟨handle, inner, hsave, found, mid, hstep, u, closed, hr, rfl, rfl⟩
    obtain ⟨-, rfl, rfl⟩ := State.save_eq_ok.mp hsave
    exact ⟨mid, hsave, by rwa [Bool.not_not], hr⟩
  · rintro ⟨mid, hsave, hstep, hrel⟩
    exact ⟨_, _, hsave, !matched, mid, hstep, (), st', hrel, (Bool.not_not _).symm, rfl⟩

theorem captureStep_eq_ok {dests : List String} {format : Option RawFormat} {handler : Handler} :
    captureStep id dests format handler step st = .ok matched st' ↔
      ∃ mid closed, State.save (.rule id) st = .ok ⟨st.depth⟩ (st.opened (.rule id)) ∧
        step (st.opened (.rule id)) = .ok matched mid ∧
        State.release matched ⟨st.depth⟩ mid = .ok () closed ∧
        st' = handler.applyAll
          (if matched then RawFormat.writes dests format (mid.consumedTokens ⟨st.depth⟩) else [])
          closed := by
  simp only [captureStep, Step.bind_eq_ok]
  constructor
  · rintro ⟨handle, inner, hsave, found, mid, hstep, h⟩
    obtain ⟨-, rfl, rfl⟩ := State.save_eq_ok.mp hsave
    refine ⟨mid, ?_⟩
    cases found with
    | true =>
      simp only [if_true, Step.get_bind] at h
      obtain ⟨u, closed, hd, h⟩ := Step.bind_eq_ok.mp h
      rw [Handler.record_apply] at h
      obtain ⟨rfl, rfl⟩ := EStateM.Result.ok.inj h
      exact ⟨closed, hsave, hstep, hd, rfl⟩
    | false =>
      simp only [Bool.false_eq_true, if_false, Step.bind_eq_ok, Step.pure_eq_ok] at h
      obtain ⟨u, closed, hr, rfl, rfl⟩ := h
      exact ⟨st', hsave, hstep, hr, rfl⟩
  · rintro ⟨mid, closed, hsave, hstep, hrel, rfl⟩
    refine ⟨_, _, hsave, matched, mid, hstep, ?_⟩
    cases matched with
    | true =>
      simp only [if_true, Step.get_bind]
      refine Step.bind_eq_ok.mpr ⟨(), closed, hrel, ?_⟩
      exact Handler.record_apply
    | false => exact Step.bind_eq_ok.mpr ⟨(), closed, hrel, rfl⟩

end Rule

namespace Collector

variable {collector : Collector} {st st' : State}

theorem collect_eq_ok {values? : Option (List Value)} :
    collector.collect st = .ok values? st' ↔
      State.save (.rule collector.id) st = .ok ⟨st.depth⟩ (st.opened (.rule collector.id)) ∧
        State.release (collector.enough st.tokens.remaining) ⟨st.depth⟩
          (consume (collector.gather 0 st.tokens.remaining).length
            (st.opened (.rule collector.id))) = .ok () st' ∧
        values? = if collector.enough st.tokens.remaining then
          some (collector.stored (collector.gather 0 st.tokens.remaining)) else none := by
  rw [collect_eq, Step.bind_eq_ok]
  constructor
  · rintro ⟨handle, inner, hsave, h⟩
    obtain ⟨-, rfl, rfl⟩ := State.save_eq_ok.mp hsave
    refine ⟨hsave, ?_⟩
    rw [Step.get_bind, State.tokens_opened, Step.bind_eq_ok] at h
    obtain ⟨u, consumed, hm, h⟩ := h
    obtain rfl := Step.modify_eq_ok.mp hm
    cases he : collector.enough st.tokens.remaining with
    | true =>
      rw [he] at h
      exact State.release_pure_eq_ok.mp h
    | false =>
      rw [he] at h
      exact State.release_pure_eq_ok.mp h
  · rintro ⟨hsave, hrel, rfl⟩
    refine ⟨_, _, hsave, ?_⟩
    rw [Step.get_bind, State.tokens_opened, Step.bind_eq_ok]
    refine ⟨(), _, Step.modify_eq_ok.mpr rfl, ?_⟩
    cases he : collector.enough st.tokens.remaining with
    | true =>
      rw [he] at hrel
      exact State.release_pure_eq_ok.mpr ⟨hrel, rfl⟩
    | false =>
      rw [he] at hrel
      exact State.release_pure_eq_ok.mpr ⟨hrel, rfl⟩

end Collector

/-! ## What a failed rule leaves behind -/

/-- A step whose every run that ends well is an orderly one. -/
def Step.Orderly {α : Type} (step : Step α) : Prop :=
  ∀ st a st', step st = .ok a st' → State.Orderly st st'

/-- A handler that writes by the operations of a state. -/
def Handler.Orderly (handler : Handler) : Prop :=
  ∀ st dest value, State.Orderly st (handler.apply st dest value)

theorem Handler.orderly_of_builtIn {handler : Handler} (h : handler.BuiltIn) :
    handler.Orderly := by
  intro st dest value
  rw [Handler.apply_eq h]
  cases handler.value? st.attributes dest value with
  | none => exact .refl st
  | some written => exact .set dest written (.refl _)

namespace State

variable {owner : Owner} {st mid st' : State}

/-- An orderly run between opening a savepoint and releasing it. -/
theorem Orderly.of_release {keep : Bool}
    (opens : save owner st = .ok ⟨st.depth⟩ (st.opened owner))
    (body : Orderly (st.opened owner) mid) (closes : release keep ⟨st.depth⟩ mid = .ok () st') :
    Orderly st st' ∧ st'.content = if keep then mid.content else st.content :=
  ⟨.scope opens body closes (.refl st'), (body.records.release closes).2⟩

theorem orderly_attempt {step : Step Bool} {matched : Bool} (hstep : step.Orderly)
    (h : attempt owner step st = .ok matched st') :
    Orderly st st' ∧ (matched = false → st'.content = st.content) := by
  obtain ⟨mid, opens, hrun, closes⟩ := attempt_eq_ok.mp h
  obtain ⟨hord, hc⟩ := Orderly.of_release opens (hstep _ _ _ hrun) closes
  refine ⟨hord, fun hm => ?_⟩
  rw [hc, hm]
  rfl

end State

theorem Handler.Orderly.applyAll {handler : Handler} (h : handler.Orderly)
    (writes : List (String × Value)) (st : State) :
    State.Orderly st (handler.applyAll writes st) := by
  induction writes generalizing st with
  | nil => exact .refl st
  | cons w ws ih => exact (h st w.1 w.2).trans (ih _)

namespace Collector

theorem orderly_consume (n : Nat) (st : State) : State.Orderly st (consume n st) := by
  rw [consume]
  split
  · exact .refl st
  · cases h : st.next? n with
    | none => exact .refl st
    | some taken => exact .next h (.refl _)

end Collector

namespace Rule

variable {st st' : State} {matched : Bool}

/-- A rule whose every run that ends well is an orderly one. -/
def Orderly (rule : Rule) : Prop := rule.run.Orderly

theorem orderly_runAll {rules : List Rule} (hsubs : ∀ r ∈ rules, r.Orderly) :
    (runAll rules).Orderly := by
  induction rules with
  | nil =>
    intro st matched st' h
    rw [runAll] at h
    obtain ⟨-, rfl⟩ := Step.pure_eq_ok.mp h
    exact .refl st'
  | cons rule rules ih =>
    obtain ⟨hrule, hrules⟩ := List.forall_mem_cons.mp hsubs
    intro st matched st' h
    rw [runAll, Step.bind_eq_ok] at h
    obtain ⟨found, mid, hrun, h⟩ := h
    refine (hrule _ _ _ hrun).trans ?_
    cases found with
    | true => exact ih hrules _ _ _ h
    | false =>
      obtain ⟨-, rfl⟩ := Step.pure_eq_ok.mp h
      exact .refl st'

theorem orderly_runAny {owner : Owner} {rules : List Rule} (hsubs : ∀ r ∈ rules, r.Orderly)
    (h : runAny owner rules st = .ok matched st') :
    State.Orderly st st' ∧ (matched = false → st'.content = st.content) := by
  induction rules generalizing st with
  | nil =>
    rw [runAny] at h
    obtain ⟨-, rfl⟩ := Step.pure_eq_ok.mp h
    exact ⟨.refl st', fun _ => rfl⟩
  | cons rule rules ih =>
    obtain ⟨hrule, hrules⟩ := List.forall_mem_cons.mp hsubs
    rw [runAny, Step.bind_eq_ok] at h
    obtain ⟨found, mid, hrun, h⟩ := h
    obtain ⟨hord, hback⟩ := State.orderly_attempt hrule hrun
    cases found with
    | true =>
      obtain ⟨rfl, rfl⟩ := Step.pure_eq_ok.mp h
      exact ⟨hord, fun hm => Bool.noConfusion hm⟩
    | false =>
      obtain ⟨hrest, hcontent⟩ := ih hrules h
      exact ⟨hord.trans hrest, fun hm => (hcontent hm).trans (hback rfl)⟩

/-- A lookahead leaves nothing behind, whether it matches or not. -/
theorem orderly_notStep {id : Nat} {step : Step Bool} (hstep : step.Orderly)
    (h : notStep id step st = .ok matched st') :
    State.Orderly st st' ∧ st'.content = st.content := by
  obtain ⟨mid, opens, hrun, closes⟩ := notStep_eq_ok.mp h
  exact State.Orderly.of_release opens (hstep _ _ _ hrun) closes

theorem captureStep_eq_false {id : Nat} {dests : List String} {format : Option RawFormat}
    {handler : Handler} {step : Step Bool} (hstep : step.Orderly)
    (h : captureStep id dests format handler step st = .ok false st') :
    State.Orderly st st' ∧ st'.content = st.content := by
  obtain ⟨mid, closed, opens, hrun, closes, rfl⟩ := captureStep_eq_ok.mp h
  exact State.Orderly.of_release opens (hstep _ _ _ hrun) closes

theorem collectStep_eq_false {collector : Collector} {handler : Handler}
    (h : collectStep collector handler st = .ok false st') :
    State.Orderly st st' ∧ st'.content = st.content := by
  rw [collectStep, Step.bind_eq_ok] at h
  obtain ⟨values?, mid, hc, h⟩ := h
  obtain ⟨opens, closes, rfl⟩ := Collector.collect_eq_ok.mp hc
  cases he : collector.enough st.tokens.remaining with
  | true =>
    simp only [he, if_true, Step.bind_eq_ok, Step.pure_eq_ok] at h
    obtain ⟨_, _, _, hf, _⟩ := h
    exact nomatch hf
  | false =>
    simp only [he, Bool.false_eq_true, if_false, Step.pure_eq_ok] at h
    obtain ⟨-, rfl⟩ := h
    rw [he] at closes
    exact State.Orderly.of_release opens (Collector.orderly_consume _ _) closes

theorem orderly_onNext (p : String → Bool) : (onNext p).Orderly := by
  intro st matched st' h
  rw [onNext_eq, Step.get_bind] at h
  obtain ⟨-, rfl⟩ := Step.pure_eq_ok.mp h
  exact .refl st'

theorem orderly_replaceNext (f : String → Option String) : (replaceNext f).Orderly := by
  intro st matched st' h
  rw [replaceNext_eq, Step.get_bind] at h
  cases hf : st.tokens.head?.bind f with
  | none =>
    rw [hf] at h
    obtain ⟨-, rfl⟩ := Step.pure_eq_ok.mp h
    exact .refl st'
  | some token =>
    simp only [hf, Step.bind_eq_ok, Step.modify_eq_ok, Step.pure_eq_ok] at h
    obtain ⟨_, _, rfl, -, rfl⟩ := h
    exact .setToken (st.setToken_zero token) (.refl _)

theorem orderly_limitStep (id : Nat) (most : Option Nat) : (limitStep id most).Orderly := by
  intro st matched st' h
  simp only [limitStep, Step.get_bind] at h
  split at h
  · obtain ⟨-, rfl⟩ := Step.pure_eq_ok.mp h
    exact .refl st'
  · simp only [Step.bind_eq_ok, Step.modify_eq_ok, Step.pure_eq_ok] at h
    obtain ⟨_, _, rfl, -, rfl⟩ := h
    exact .store _ _ _ (.refl _)

/-- A skip consumes its tokens, or it fails and leaves the state as it was. -/
theorem skip_eq_ok {n : Nat} (h : run (.skip n) st = .ok matched st') :
    (matched = false ∧ st' = st) ∨
      (matched = true ∧ ∃ taken, st.next? n = some (taken, st')) := by
  rw [run, Step.get_bind] at h
  cases hn : st.next? n with
  | none =>
    rw [hn] at h
    obtain ⟨rfl, rfl⟩ := Step.pure_eq_ok.mp h
    exact .inl ⟨rfl, rfl⟩
  | some next =>
    rw [hn] at h
    obtain ⟨_, mid, hset, h⟩ := Step.bind_eq_ok.mp h
    obtain ⟨rfl, rfl⟩ := Step.pure_eq_ok.mp h
    cases hset
    exact .inr ⟨rfl, next.1, rfl⟩

theorem orderly_skip (n : Nat) : (skip n).Orderly := by
  intro st matched st' h
  obtain ⟨-, rfl⟩ | ⟨-, taken, hnext⟩ := skip_eq_ok h
  · exact .refl st'
  · exact .next hnext (.refl _)

theorem orderly_collectStep (collector : Collector) {handler : Handler} (hh : handler.Orderly) :
    (collectStep collector handler).Orderly := by
  intro st matched st' h
  rw [collectStep, Step.bind_eq_ok] at h
  obtain ⟨values?, mid, hc, h⟩ := h
  obtain ⟨opens, closes, -⟩ := Collector.collect_eq_ok.mp hc
  refine (State.Orderly.of_release opens (Collector.orderly_consume _ _) closes).1.trans ?_
  cases values? with
  | none =>
    obtain ⟨-, rfl⟩ := Step.pure_eq_ok.mp h
    exact .refl st'
  | some values =>
    simp only [Step.bind_eq_ok, Step.modify_eq_ok, Step.pure_eq_ok] at h
    obtain ⟨_, _, rfl, -, rfl⟩ := h
    exact hh mid collector.dest (.list values)

theorem orderly_captureStep {id : Nat} {dests : List String} {format : Option RawFormat}
    {handler : Handler} {step : Step Bool} (hh : handler.Orderly) (hstep : step.Orderly) :
    (captureStep id dests format handler step).Orderly := by
  intro st matched st' h
  obtain ⟨mid, closed, opens, hrun, closes, rfl⟩ := captureStep_eq_ok.mp h
  exact (State.Orderly.of_release opens (hstep _ _ _ hrun) closes).1.trans (hh.applyAll _ closed)

/-- What a rule brings of the user's making, a step or a handler, is orderly. -/
def OrderlyRoot : Rule → Prop
  | .custom step => step.Orderly
  | .collect _ handler | .capture _ _ _ _ handler => handler.Orderly
  | _ => True

/-- A tree of rules is orderly if what it has of the user's making is. -/
theorem Each.orderly {rule : Rule} (h : rule.Each OrderlyRoot) : rule.Orderly := by
  induction h with
  | @intro rule root _ ih =>
    intro st matched st' hrun
    cases rule with
    | skip n => exact orderly_skip n _ _ _ hrun
    | check p =>
      rw [run] at hrun
      exact orderly_onNext p _ _ _ hrun
    | isIn words fold =>
      rw [run] at hrun
      exact orderly_onNext _ _ _ _ hrun
    | isEmpty =>
      rw [run] at hrun
      exact orderly_onNext _ _ _ _ hrun
    | not id rule =>
      rw [run] at hrun
      exact (orderly_notStep (ih rule List.mem_cons_self) hrun).1
    | replace f =>
      rw [run] at hrun
      exact orderly_replaceNext f _ _ _ hrun
    | removePrefix ps fold =>
      rw [run] at hrun
      exact orderly_replaceNext _ _ _ _ hrun
    | all id rules =>
      rw [run] at hrun
      exact (State.orderly_attempt (orderly_runAll ih) hrun).1
    | any id rules =>
      rw [run] at hrun
      exact (orderly_runAny ih hrun).1
    | limit id most =>
      rw [run] at hrun
      exact orderly_limitStep id most _ _ _ hrun
    | collect collector handler =>
      rw [run] at hrun
      exact orderly_collectStep collector root _ _ _ hrun
    | capture id dests rule format handler =>
      rw [run] at hrun
      exact orderly_captureStep root (ih rule List.mem_cons_self) _ _ _ hrun
    | custom step =>
      rw [run] at hrun
      exact root _ _ _ hrun

/-- Rules that are not of the user's making bring nothing but their handlers. -/
theorem Library.orderlyRoot {ok : Handler → Prop} {rule : Rule} (h : rule.Library ok)
    (hok : ∀ handler, ok handler → handler.Orderly) : rule.Each OrderlyRoot := by
  refine h.mono fun r hr => ?_
  cases r with
  | custom step => exact hr.elim
  | collect collector handler => exact hok handler hr
  | capture id dests rule format handler => exact hok handler hr
  | _ => trivial

/-- Rules that are not of the user's making are orderly, with handlers that are built in. -/
theorem Library.orderly {rule : Rule} (h : rule.Library Handler.BuiltIn) : rule.Orderly :=
  (h.orderlyRoot fun _ => Handler.orderly_of_builtIn).orderly

/-- The rules that take back what they did when they end this way: a failed sequence, choice or
action, and a lookahead in either case. -/
def TakesBack : Rule → Bool → Prop
  | .not _ _, _ => True
  | .all _ _, matched | .any _ _, matched => matched = false
  | .collect _ _, matched | .capture _ _ _ _ _, matched => matched = false
  | _, _ => False

/-- Whatever the rules below it did before, as long as they are orderly, a rule that takes back what
it did leaves the tokens, the attributes, the kept values and the owners of the open savepoints as
they were. -/
theorem unchanged_of_takesBack {rule : Rule} (hsubs : ∀ r ∈ rule.subrules, r.Orderly)
    (hrun : rule.run st = .ok matched st') (hback : rule.TakesBack matched) :
    st'.content = st.content ∧
      st'.savepoints.map (·.owner) = st.savepoints.map (·.owner) := by
  suffices State.Orderly st st' ∧ st'.content = st.content from
    ⟨this.2, this.1.records.owners⟩
  cases rule with
  | not id rule =>
    rw [run] at hrun
    exact orderly_notStep (hsubs rule List.mem_cons_self) hrun
  | all id rules =>
    obtain rfl : matched = false := hback
    rw [run] at hrun
    obtain ⟨hord, hc⟩ := State.orderly_attempt (orderly_runAll hsubs) hrun
    exact ⟨hord, hc rfl⟩
  | any id rules =>
    obtain rfl : matched = false := hback
    rw [run] at hrun
    obtain ⟨hord, hc⟩ := orderly_runAny hsubs hrun
    exact ⟨hord, hc rfl⟩
  | collect collector handler =>
    obtain rfl : matched = false := hback
    rw [run] at hrun
    exact collectStep_eq_false hrun
  | capture id dests rule format handler =>
    obtain rfl : matched = false := hback
    rw [run] at hrun
    exact captureStep_eq_false (hsubs rule List.mem_cons_self) hrun
  | _ => exact hback.elim

/-- Writes an attribute, keeps a value, replaces and consumes the next token, and then does not
match. -/
def scribble : Rule :=
  .custom do
    modify fun st => (st.set "a" (.int 1)).store (.rule 9) "k" (.int 2)
    let _ ← replaceNext fun _ => some "rewritten"
    modify (Collector.consume 1)
    return false

theorem orderly_scribble : scribble.Orderly := by
  intro st matched st' h
  simp only [scribble, run, Step.bind_eq_ok, Step.modify_eq_ok, Step.pure_eq_ok] at h
  obtain ⟨_, _, rfl, _, _, hreplace, _, _, rfl, -, rfl⟩ := h
  have hnext := orderly_replaceNext _ _ _ _ hreplace
  exact .set _ _ (.store _ _ _ (hnext.trans (Collector.orderly_consume 1 _)))

/-- The choice commits to consuming the token, and the sequence around it fails afterwards. -/
theorem unchanged_of_scribble :
    ∃ st', run (.all 1 [.any 2 [scribble, .skip 1], scribble]) (.start ["x", "y"] none) =
        .ok false st' ∧
      st'.content = (State.start ["x", "y"] none).content ∧
      st'.savepoints.map (·.owner) = [] := by
  have hskip : Orderly (.skip 1) := orderly_skip 1
  have hany : Orderly (.any 2 [scribble, .skip 1]) := by
    intro st matched st' h
    rw [run] at h
    exact (orderly_runAny (by simp [orderly_scribble, hskip]) h).1
  have hsubs : ∀ r ∈ subrules (.all 1 [.any 2 [scribble, .skip 1], scribble]), r.Orderly := by
    simp [subrules, hany, orderly_scribble]
  exact ⟨_, rfl, unchanged_of_takesBack hsubs rfl rfl⟩

end Rule

end TokenGrammar
