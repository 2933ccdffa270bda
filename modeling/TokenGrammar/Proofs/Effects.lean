import Mathlib.Logic.Relation
import TokenGrammar.Proofs.Isolation
import TokenGrammar.Proofs.Rollback

/-!
# Effects of rules

What a rule has changed when it matches. Everything that a failed rule did is taken back, so a match
changes what the rules of its tree change by themselves, one after the other.

* `Step.Ensures`: whenever a step matches, the contents before and after it are related.
  `Step.Ensures.attempt`, `Rule.ensures_runAny` and their like give this for the steps that rules
  are made of;
* `Rule.Effect`: what a rule changes by itself, apart from the rules below it;
* `Rule.Library.ensures`: a match of a tree is a row of effects of its rules, by induction on it;
* `Rule.Library.attribute_eq`: an attribute that no rule of the tree writes stays.
-/

namespace TokenGrammar

/-- Writes values to destinations, one after the other. -/
def Content.writeAll (handler : Handler) (writes : List (String × Value)) (c : Content) : Content :=
  { c with attributes := writes.foldl (fun ns w => handler.write w.1 w.2 ns) c.attributes }

theorem Handler.content_apply {handler : Handler} (h : handler.BuiltIn) (st : State)
    (dest : String) (value : Value) :
    (handler.apply st dest value).content = st.content.writeAll handler [(dest, value)] :=
  (State.Records.of_recorded (Recorded.apply h st.content dest value)).2

theorem Handler.content_applyAll {handler : Handler} (h : handler.BuiltIn)
    (writes : List (String × Value)) (st : State) :
    (handler.applyAll writes st).content = st.content.writeAll handler writes :=
  (State.Records.of_recorded (Recorded.applyAll h writes st.content)).2

/-- A built-in handler writes its destination and no other attribute. -/
theorem Handler.get?_write (handler : Handler) {dest name : String} (h : name ≠ dest)
    (value : Value) (ns : Namespace) : (handler.write dest value ns).get? name = ns.get? name := by
  rw [write]
  cases handler.value? ns dest value with
  | none => rfl
  | some written => exact ns.get?_set_of_ne written h

theorem Handler.get?_write_self (handler : Handler) (dest : String) (value : Value)
    (ns : Namespace) :
    (handler.write dest value ns).get? dest =
      (handler.value? ns dest value).or (ns.get? dest) := by
  rw [write]
  cases handler.value? ns dest value with
  | none => rfl
  | some written => simp

/-- An attribute that is not among the destinations stays. -/
theorem Content.get?_writeAll (handler : Handler) {writes : List (String × Value)} {name : String}
    (h : ∀ w ∈ writes, name ≠ w.1) (c : Content) :
    (c.writeAll handler writes).attributes.get? name = c.attributes.get? name := by
  obtain ⟨tokens, attributes, scratch⟩ := c
  simp only [writeAll]
  induction writes generalizing attributes with
  | nil => rfl
  | cons w ws ih =>
    obtain ⟨hw, hws⟩ := List.forall_mem_cons.mp h
    exact (ih hws _).trans (handler.get?_write hw w.2 attributes)

/-- Consumed tokens are recorded in the destinations. -/
theorem RawFormat.ne_of_mem_writes {dests : List String} {name : String} (h : name ∉ dests)
    (format : Option RawFormat) (consumed : List String) :
    ∀ w ∈ writes dests format consumed, name ≠ w.1 := by
  intro w hw
  rw [writes] at hw
  split at hw
  · obtain ⟨dest, hdest, rfl⟩ := List.mem_map.mp hw
    rintro rfl
    exact h hdest
  · cases hw

/-- The handler leaves the attribute alone unless it is the destination. -/
def Handler.Keeps (handler : Handler) (name : String) : Prop :=
  ∀ st dest value, name ≠ dest → (handler.apply st dest value).attribute? name = st.attribute? name

theorem Handler.keeps_of_builtIn {handler : Handler} (h : handler.BuiltIn) (name : String) :
    handler.Keeps name := by
  intro st dest value hne
  show (handler.apply st dest value).content.attributes.get? name = _
  rw [content_apply h]
  exact Content.get?_writeAll handler (List.forall_mem_singleton.mpr hne) st.content

theorem Handler.Keeps.applyAll {handler : Handler} {name : String} (h : handler.Keeps name)
    {writes : List (String × Value)} (hwrites : ∀ w ∈ writes, name ≠ w.1) (st : State) :
    (handler.applyAll writes st).attribute? name = st.attribute? name := by
  induction writes generalizing st with
  | nil => rfl
  | cons w ws ih =>
    obtain ⟨hw, hws⟩ := List.forall_mem_cons.mp hwrites
    exact (ih hws _).trans (h st w.1 w.2 hw)

/-- The handler leaves a part of the content as it is, whatever it writes. -/
def Handler.Leaves {α : Type} (part : Content → α) (handler : Handler) : Prop :=
  ∀ st dest value, part (handler.apply st dest value).content = part st.content

section Leaves

variable {α : Type} {part : Content → α} {handler : Handler}

/-- A built-in handler writes attributes only. -/
theorem Handler.leaves_of_builtIn (h : handler.BuiltIn)
    (hpart : ∀ c attributes, part { c with attributes } = part c) : handler.Leaves part := by
  intro st dest value
  rw [content_apply h]
  exact hpart st.content _

theorem Handler.Leaves.applyAll (h : handler.Leaves part) (writes : List (String × Value))
    (st : State) : part (handler.applyAll writes st).content = part st.content := by
  induction writes generalizing st with
  | nil => rfl
  | cons w ws ih => exact (ih _).trans (h st w.1 w.2)

end Leaves

/-! ## Steps that match -/

/-- Whenever the step matches, the contents before and after it are related. -/
def Step.Ensures (step : Step Bool) (R : Content → Content → Prop) : Prop :=
  ∀ st st', step st = .ok true st' → R st.content st'.content

namespace Step.Ensures

variable {step : Step Bool} {R S : Content → Content → Prop}

theorem mono (h : step.Ensures R) (hRS : ∀ c d, R c d → S c d) : step.Ensures S :=
  fun st st' hrun => hRS _ _ (h st st' hrun)

theorem and (h : step.Ensures R) (h' : step.Ensures S) :
    step.Ensures fun c d => R c d ∧ S c d :=
  fun st st' hrun => ⟨h st st' hrun, h' st st' hrun⟩

theorem attempt {owner : Owner} (h : step.Ensures R) : (State.attempt owner step).Ensures R := by
  intro st st' hrun
  obtain ⟨mid, -, hstep, closes⟩ := State.attempt_eq_ok.mp hrun
  obtain ⟨sp, hpop⟩ := State.dismiss_eq_ok.mp closes
  rw [(State.pop_eq_ok.mp hpop).2.2]
  exact h (st.opened owner) mid hstep

theorem notStep {id : Nat} (hord : step.Orderly) : (Rule.notStep id step).Ensures Eq :=
  fun _ _ hrun => (Rule.orderly_notStep hord hrun).2.symm

/-- A capture writes the tokens that were consumed. Where at least one was, they are those in front
of the cursor as it was before, as they were spelled then. -/
theorem captureStep {id : Nat} {dests : List String} {format : Option RawFormat}
    {handler : Handler} (h : step.Ensures R) (hord : step.Orderly) (hh : handler.BuiltIn) :
    (Rule.captureStep id dests format handler step).Ensures fun c e => ∃ d consumed, R c d ∧
      (c.tokens.cursor < d.tokens.cursor → d.tokens.cursor ≤ d.tokens.tokens.length →
        consumed = c.tokens.remaining.take (d.tokens.cursor - c.tokens.cursor)) ∧
      e = d.writeAll handler (RawFormat.writes dests format consumed) := by
  intro st st' hrun
  obtain ⟨mid, closed, -, hstep, closes, rfl⟩ := Rule.captureStep_eq_ok.mp hrun
  obtain ⟨sp, hpop⟩ := State.dismiss_eq_ok.mp closes
  have hclosed : closed.content = mid.content := (State.pop_eq_ok.mp hpop).2.2
  obtain ⟨f, hsps, hf⟩ := (hord _ _ _ hstep).records
  have hmid : mid = mid.content.under (f (.fresh (.rule id)) :: st.savepoints.map f) := by
    rw [← State.under_content mid, hsps]
    rfl
  refine ⟨mid.content, mid.consumedTokens ⟨st.depth⟩, h (st.opened (.rule id)) mid hstep,
     fun hmove hend => ?_, ?_⟩
  · rw [State.depth, ← List.length_map f, hmid]
    exact hf.consumedTokens_eq (st.savepoints.map f) hmove hend
  · rw [if_pos rfl, Handler.content_applyAll hh, hclosed]

/-- A capture changes nothing that its handler leaves as it is. -/
theorem captureStep_of_leaves {α : Type} {part : Content → α} {T : Content → α → Prop} {id : Nat}
    {dests : List String} {format : Option RawFormat} {handler : Handler}
    (h : step.Ensures fun c d => T c (part d)) (hh : handler.Leaves part) :
    (Rule.captureStep id dests format handler step).Ensures fun c d => T c (part d) := by
  intro st st' hrun
  obtain ⟨mid, closed, -, hstep, closes, rfl⟩ := Rule.captureStep_eq_ok.mp hrun
  obtain ⟨sp, hpop⟩ := State.dismiss_eq_ok.mp closes
  have hclosed : closed.content = mid.content := (State.pop_eq_ok.mp hpop).2.2
  have hmid := h (st.opened (.rule id)) mid hstep
  rw [if_pos rfl, hh.applyAll, hclosed]
  exact hmid

end Step.Ensures

namespace Rule

variable {R S : Content → Content → Prop}

theorem ensures_runAll_nil : (runAll []).Ensures Eq := by
  intro st st' hrun
  rw [runAll] at hrun
  obtain ⟨-, rfl⟩ := Step.pure_eq_ok.mp hrun
  rfl

theorem ensures_runAll_cons {rule : Rule} {rules : List Rule} (h : rule.run.Ensures R)
    (hrest : (runAll rules).Ensures S) :
    (runAll (rule :: rules)).Ensures fun c e => ∃ d, R c d ∧ S d e := by
  intro st st' hrun
  rw [runAll, Step.bind_eq_ok] at hrun
  obtain ⟨found, mid, hrule, hrun⟩ := hrun
  cases found with
  | true => exact ⟨mid.content, h _ _ hrule, hrest _ _ hrun⟩
  | false =>
    obtain ⟨hf, -⟩ := Step.pure_eq_ok.mp hrun
    cases hf

theorem ensures_runAll_append {rules more : List Rule} (h : (runAll rules).Ensures R)
    (hmore : (runAll more).Ensures S) :
    (runAll (rules ++ more)).Ensures fun c e => ∃ d, R c d ∧ S d e := by
  intro st st' hrun
  rw [runAll_append, Step.bind_eq_ok] at hrun
  obtain ⟨found, mid, hrules, hrun⟩ := hrun
  cases found with
  | true => exact ⟨mid.content, h _ _ hrules, hmore _ _ hrun⟩
  | false => cases (Step.pure_eq_ok.mp hrun).1

/-- A choice does what one of its rules does: the ones before it leave nothing behind. -/
theorem ensures_runAny {owner : Owner} {rules : List Rule} (h : ∀ r ∈ rules, r.run.Ensures R)
    (hord : ∀ r ∈ rules, r.Orderly) : (runAny owner rules).Ensures R := by
  induction rules with
  | nil =>
    intro st st' hrun
    rw [runAny] at hrun
    obtain ⟨hf, -⟩ := Step.pure_eq_ok.mp hrun
    cases hf
  | cons rule rules ih =>
    obtain ⟨hrule, hrules⟩ := List.forall_mem_cons.mp h
    obtain ⟨horule, horules⟩ := List.forall_mem_cons.mp hord
    intro st st' hrun
    rw [runAny, Step.bind_eq_ok] at hrun
    obtain ⟨found, mid, hattempt, hrun⟩ := hrun
    cases found with
    | true =>
      obtain ⟨-, rfl⟩ := Step.pure_eq_ok.mp hrun
      exact hrule.attempt _ _ hattempt
    | false =>
      rw [← (State.orderly_attempt horule hattempt).2 rfl]
      exact ih hrules horules _ _ hrun

/-! ## Rules by themselves -/

/-- What a rule changes by itself when it matches, apart from the rules below it. -/
def Effect : Rule → Content → Content → Prop
  | .skip n, c, d => ∃ taken b, c.tokens.take? n = some (taken, b) ∧ d = { c with tokens := b }
  | .replace _, c, d | .removePrefix _ _, c, d =>
    ∃ token, d = { c with tokens := c.tokens.replace c.tokens.front token }
  | .limit id _, c, d =>
    d = { c with scratch := c.scratch.set (.rule id) counterKey (.int (c.scratch.count id + 1)) }
  | .collect collector handler, c, d =>
    d = (collector.after c).writeAll handler
      [(collector.dest, .list (collector.stored (collector.gather 0 c.tokens.remaining)))]
  | .capture _ dests _ format handler, c, d =>
    ∃ consumed, d = c.writeAll handler (RawFormat.writes dests format consumed)
  | _, c, d => c = d

theorem ensures_onNext (p : String → Bool) : (onNext p).Ensures Eq := by
  intro st st' hrun
  rw [onNext_eq, Step.get_bind] at hrun
  obtain ⟨-, rfl⟩ := Step.pure_eq_ok.mp hrun
  rfl

theorem ensures_replaceNext (f : String → Option String) :
    (replaceNext f).Ensures fun c d =>
      ∃ token, d = { c with tokens := c.tokens.replace c.tokens.front token } := by
  intro st st' hrun
  rw [replaceNext_eq, Step.get_bind] at hrun
  cases hf : st.tokens.head?.bind f with
  | none =>
    rw [hf] at hrun
    cases (Step.pure_eq_ok.mp hrun).1
  | some token =>
    simp only [hf, Step.bind_eq_ok, Step.modify_eq_ok, Step.pure_eq_ok] at hrun
    obtain ⟨_, _, rfl, -, rfl⟩ := hrun
    exact ⟨token, (State.Records.of_recorded (.respell_front st.content token)).2⟩

theorem ensures_skip (n : Nat) : (run (.skip n)).Ensures (Effect (.skip n)) := by
  intro st st' hrun
  obtain ⟨hfalse, -⟩ | ⟨-, taken, hnext⟩ := skip_eq_ok hrun
  · cases hfalse
  · obtain ⟨buffer, hbuffer, rfl⟩ := State.next?_eq_some.mp hnext
    exact ⟨taken, buffer, hbuffer, rfl⟩

theorem ensures_limitStep (id : Nat) (most : Option Nat) :
    (limitStep id most).Ensures (Effect (.limit id most)) := by
  intro st st' hrun
  simp only [limitStep, Step.get_bind] at hrun
  split at hrun
  · cases (Step.pure_eq_ok.mp hrun).1
  · simp only [Step.bind_eq_ok, Step.modify_eq_ok, Step.pure_eq_ok] at hrun
    obtain ⟨_, _, rfl, -, rfl⟩ := hrun
    rfl

/-- A collector that matches has taken enough values, and writes behind the tokens that it took. -/
theorem collectStep_eq_true {collector : Collector} {handler : Handler} {st st' : State}
    (h : collectStep collector handler st = .ok true st') :
    collector.enough st.tokens.remaining = true ∧
      ∃ mid : State, mid.content = collector.after st.content ∧
        st' = handler.apply mid collector.dest
          (.list (collector.stored (collector.gather 0 st.tokens.remaining))) := by
  rw [collectStep, Step.bind_eq_ok] at h
  obtain ⟨values?, mid, hc, hrun⟩ := h
  obtain ⟨-, closes, rfl⟩ := Collector.collect_eq_ok.mp hc
  cases he : collector.enough st.tokens.remaining with
  | false =>
    simp only [he, Bool.false_eq_true, if_false] at hrun
    cases (Step.pure_eq_ok.mp hrun).1
  | true =>
    simp only [he, if_true, Step.bind_eq_ok, Step.modify_eq_ok, Step.pure_eq_ok] at hrun closes
    obtain ⟨_, _, rfl, -, rfl⟩ := hrun
    obtain ⟨sp, hpop⟩ := State.dismiss_eq_ok.mp closes
    have hrecorded : Recorded _ (st.opened (.rule collector.id)).content _ :=
      collector.recorded_after st.content
    refine ⟨rfl, mid, ?_, rfl⟩
    rw [(State.pop_eq_ok.mp hpop).2.2]
    exact (State.Records.of_recorded hrecorded).2

theorem ensures_collectStep {collector : Collector} {handler : Handler} (hh : handler.BuiltIn) :
    (collectStep collector handler).Ensures (Effect (.collect collector handler)) := by
  intro st st' hrun
  obtain ⟨-, mid, hmid, rfl⟩ := collectStep_eq_true hrun
  rw [Handler.content_apply hh, hmid]
  rfl

/-- What the handler leaves as it is depends on the tokens that were taken only. -/
theorem ensures_collectStep_of_leaves {α : Type} {part : Content → α} {collector : Collector}
    {handler : Handler} (hh : handler.Leaves part) :
    (collectStep collector handler).Ensures fun c d =>
      collector.enough c.tokens.remaining = true ∧ part d = part (collector.after c) := by
  intro st st' hrun
  obtain ⟨henough, mid, hmid, rfl⟩ := collectStep_eq_true hrun
  refine ⟨henough, ?_⟩
  rw [hh, hmid]

/-! ## Trees of rules -/

theorem ensures_runAll (hsame : ∀ c d, c = d → R c d) (trans : ∀ c d e, R c d → R d e → R c e)
    {rules : List Rule} (h : ∀ r ∈ rules, r.run.Ensures R) : (runAll rules).Ensures R := by
  induction rules with
  | nil => exact ensures_runAll_nil.mono hsame
  | cons rule rules ih =>
    obtain ⟨hrule, hrest⟩ := List.forall_mem_cons.mp h
    refine (ensures_runAll_cons hrule (ih hrest)).mono ?_
    rintro c e ⟨d, hfirst, hlater⟩
    exact trans c d e hfirst hlater

/-- What a rule adds to the rules below it is in the relation, when it matches. -/
def Adds (R : Content → Content → Prop) : Rule → Prop
  | .skip n => (run (.skip n)).Ensures R
  | .replace f => (replaceNext f).Ensures R
  | .removePrefix prefixes fold => (replaceNext (stripFirst? prefixes fold)).Ensures R
  | .limit id most => (limitStep id most).Ensures R
  | .collect collector handler => (collectStep collector handler).Ensures R
  | .capture id dests _ format handler =>
    ∀ step : Step Bool, step.Orderly → step.Ensures R →
      (captureStep id dests format handler step).Ensures R
  | .custom step => step.Ensures R
  | _ => True

/-- What holds of every row of the steps that the rules of a tree take holds of the tree. -/
theorem Each.ensures (refl : ∀ c, R c c) (trans : ∀ c d e, R c d → R d e → R c e) {rule : Rule}
    (hord : rule.Each OrderlyRoot) (h : rule.Each (Adds R)) : rule.run.Ensures R := by
  have hsame : ∀ c d, c = d → R c d := fun c _ heq => heq ▸ refl c
  induction h with
  | @intro rule root _ ih =>
    have hsubs : ∀ r ∈ rule.subrules, r.run.Ensures R := fun r hr => ih r hr (hord.subs r hr)
    have hords : ∀ r ∈ rule.subrules, r.Orderly := fun r hr => (hord.subs r hr).orderly
    cases rule with
    | skip n => exact root
    | check p =>
      rw [run]
      exact (ensures_onNext p).mono hsame
    | isIn words fold =>
      rw [run]
      exact (ensures_onNext _).mono hsame
    | isEmpty =>
      rw [run]
      exact (ensures_onNext _).mono hsame
    | not id rule =>
      rw [run]
      exact (Step.Ensures.notStep (hords rule List.mem_cons_self)).mono hsame
    | replace f =>
      rw [run]
      exact root
    | removePrefix prefixes fold =>
      rw [run]
      exact root
    | all id rules =>
      rw [run]
      exact (ensures_runAll hsame trans hsubs).attempt
    | any id rules =>
      rw [run]
      exact ensures_runAny hsubs hords
    | limit id most =>
      rw [run]
      exact root
    | collect collector handler =>
      rw [run]
      exact root
    | capture id dests rule format handler =>
      rw [run]
      exact root _ (hords rule List.mem_cons_self) (hsubs rule List.mem_cons_self)
    | custom step =>
      rw [run]
      exact root

/-- A row of effects of rules of a kind. -/
def Changes (P : Rule → Prop) : Content → Content → Prop :=
  Relation.ReflTransGen fun c d => ∃ r, P r ∧ r.Effect c d

/-- When a tree of library rules matches, it has changed what its rules change by themselves. -/
theorem Library.ensures {P : Rule → Prop} {rule : Rule} (h : rule.Library Handler.BuiltIn)
    (hP : rule.Each P) : rule.run.Ensures (Changes P) := by
  refine Each.ensures (fun _ => .refl) (fun _ _ _ => .trans)
    (h.orderlyRoot fun _ => Handler.orderly_of_builtIn) ((h.and hP).mono fun r hr => ?_)
  obtain ⟨hlibrary, hown⟩ := hr
  have own {c d : Content} (he : r.Effect c d) : Changes P c d := .single ⟨r, hown, he⟩
  cases r with
  | skip n => exact (ensures_skip n).mono fun _ _ => own
  | replace f => exact (ensures_replaceNext f).mono fun _ _ => own
  | removePrefix prefixes fold => exact (ensures_replaceNext _).mono fun _ _ => own
  | limit id most => exact (ensures_limitStep id most).mono fun _ _ => own
  | collect collector handler => exact (ensures_collectStep hlibrary).mono fun _ _ => own
  | capture id dests rule format handler =>
    intro step hord hstep
    refine (hstep.captureStep hord hlibrary).mono ?_
    rintro c e ⟨d, consumed, hchanges, -, rfl⟩
    exact hchanges.trans (own ⟨consumed, rfl⟩)
  | custom step => exact hlibrary.elim
  | _ => trivial

/-! ## Attributes that stay -/

/-- The attributes that a rule writes by itself. -/
def dests : Rule → List String
  | .collect collector _ => [collector.dest]
  | .capture _ dests _ _ _ => dests
  | _ => []

/-- No rule of the tree writes the attribute. -/
def Spares (rule : Rule) (name : String) : Prop := rule.Each (name ∉ ·.dests)

instance (rule : Rule) (name : String) : Decidable (rule.Spares name) :=
  inferInstanceAs (Decidable (rule.Each (name ∉ ·.dests)))

/-- A rule writes by itself to its destinations only. -/
theorem Effect.attribute_eq {rule : Rule} {c d : Content} (h : rule.Effect c d) {name : String}
    (hname : name ∉ rule.dests) : d.attributes.get? name = c.attributes.get? name := by
  cases rule with
  | skip n =>
    obtain ⟨_, _, -, rfl⟩ := h
    rfl
  | replace f =>
    obtain ⟨_, rfl⟩ := h
    rfl
  | removePrefix prefixes fold =>
    obtain ⟨_, rfl⟩ := h
    rfl
  | limit id most =>
    obtain rfl := h
    rfl
  | collect collector handler =>
    obtain rfl := h
    refine Content.get?_writeAll handler ?_ (collector.after c)
    exact List.forall_mem_singleton.mpr (List.ne_of_not_mem_cons hname)
  | capture id dests rule format handler =>
    obtain ⟨consumed, rfl⟩ := h
    exact Content.get?_writeAll handler (RawFormat.ne_of_mem_writes hname format consumed) c
  | check p | isIn words fold | isEmpty | not id rule | all id rules | any id rules | custom step =>
    exact congrArg (·.attributes.get? name) (Eq.symm h)

/-- An attribute that no rule of the tree writes, and no handler of its own accord, stays when the
tree matches. -/
theorem Library.keeps {rule : Rule} {name : String}
    (h : rule.Library fun handler => handler.Orderly ∧ handler.Keeps name)
    (hspares : rule.Spares name) :
    rule.run.Ensures fun c d => d.attributes.get? name = c.attributes.get? name := by
  refine Each.ensures (R := fun c d => d.attributes.get? name = c.attributes.get? name)
    (fun _ => rfl) (fun _ _ _ h h' => h'.trans h) (h.orderlyRoot fun _ => And.left)
    ((h.and hspares).mono fun r hr => ?_)
  obtain ⟨hlibrary, hname⟩ := hr
  have hreplace (f : String → Option String) :
      (replaceNext f).Ensures fun c d => d.attributes.get? name = c.attributes.get? name := by
    refine (ensures_replaceNext f).mono ?_
    rintro c _ ⟨token, rfl⟩
    rfl
  cases r with
  | skip n => exact (ensures_skip n).mono fun _ _ he => he.attribute_eq hname
  | replace f => exact hreplace f
  | removePrefix prefixes fold => exact hreplace _
  | limit id most => exact (ensures_limitStep id most).mono fun _ _ he => he.attribute_eq hname
  | collect collector handler =>
    intro st st' hrun
    obtain ⟨-, mid, hmid, rfl⟩ := collectStep_eq_true hrun
    have hne : name ≠ collector.dest := List.ne_of_not_mem_cons hname
    have hsame : mid.attributes = st.attributes := congrArg Content.attributes hmid
    refine (hlibrary.2 mid _ _ hne).trans ?_
    rw [State.attribute?, hsame]
    rfl
  | capture id dests rule format handler =>
    intro step hord hstep st st' hrun
    obtain ⟨mid, closed, -, hmatch, closes, rfl⟩ := captureStep_eq_ok.mp hrun
    obtain ⟨sp, hpop⟩ := State.dismiss_eq_ok.mp closes
    have hsame : closed.attributes = mid.attributes :=
      congrArg Content.attributes (State.pop_eq_ok.mp hpop).2.2
    have hkept := hlibrary.2.applyAll (RawFormat.ne_of_mem_writes hname format
      (mid.consumedTokens ⟨st.depth⟩)) closed
    refine hkept.trans (.trans ?_ (hstep (st.opened (.rule id)) mid hmatch))
    rw [State.attribute?, hsame]
    rfl
  | custom step => exact hlibrary.elim
  | _ => trivial

/-- An attribute that no rule of the tree writes stays when the tree matches. -/
theorem Library.attribute_eq {rule : Rule} (h : rule.Library Handler.BuiltIn) {name : String}
    (hspares : rule.Spares name) :
    rule.run.Ensures fun c d => d.attributes.get? name = c.attributes.get? name :=
  Library.keeps (h.of_handlers fun _ hb =>
      ⟨Handler.orderly_of_builtIn hb, Handler.keeps_of_builtIn hb name⟩)
    hspares

end Rule

end TokenGrammar
