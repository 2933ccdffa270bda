import TokenGrammar.Proofs.Agreement
import TokenGrammar.Proofs.Alternatives
import TokenGrammar.Proofs.Limits
import TokenGrammar.Proofs.OpenSpan

/-!
# Termination

A round of the loop over the tokens fails or leaves fewer tokens, whatever the rules do: they may
match without consuming, replace tokens, fail in the middle of their work, leave savepoints open or
release those of others. All that counts is that they change a state by its operations only. These
move the cursor forward, or back to where it was when a savepoint was opened, and no savepoint is
open between two rounds.

* `Step.Operates`: a step that works through the operations of a state. Rules with everything below
  them do, if what they have of the user's making does (`Rule.Each.operates`), and so do the rules
  of declared arguments (`ArgumentParser.Built.operates`);
* `State.Beyond`: the cursor is not before a place, and no savepoint leads back before it.
  Operations keep this up (`State.Beyond.perform`);
* `TokenParser.round`: one round of the loop, which `TokenParser.Rounds` repeats with no bound of
  rounds in sight;
* `Collector.turn?`: one turn of the loop over the values, which `Collector.Turns` repeats;
* `TokenParser.terminates`: the rounds of a parse are at most as many as its tokens, and the turns
  at most one more than the tokens that are left.
-/

namespace TokenGrammar

/-! ## Steps that work through the operations of a state -/

/-- Whatever the step does, and be it to fail in the end, it does by operations of the state. Every
change of a state goes through these, so that the open savepoints can keep what was before it. -/
def Step.Operates {α : Type} (step : Step α) : Prop :=
  ∀ st, ∃ ops, Step.leaves step st = st.performAll ops

/-- The handler writes by operations of the state. -/
def Handler.Operates (handler : Handler) : Prop :=
  ∀ (st : State) dest value, ∃ ops, handler.apply st dest value = st.performAll ops

theorem State.performAll_append (st : State) (ops more : List Operation) :
    st.performAll (ops ++ more) = (st.performAll ops).performAll more :=
  List.foldl_append

theorem State.performAll_edit (st : State) (e : Edit) :
    st.performAll [.edit e] = (e.onState st).2 :=
  st.perform_edit e

namespace Step.Operates

variable {α β : Type}

theorem pure (a : α) : Step.Operates (Pure.pure a) := fun _ => ⟨[], rfl⟩

theorem bind {x : Step α} {f : α → Step β} (hx : x.Operates) (hf : ∀ a, (f a).Operates) :
    Step.Operates (x >>= f) := by
  intro st
  obtain ⟨ops, hops⟩ := hx st
  rw [leaves] at hops ⊢
  rw [Step.bind_apply]
  cases hrun : x st with
  | error e mid =>
    rw [hrun] at hops
    exact ⟨ops, hops⟩
  | ok a mid =>
    rw [hrun] at hops
    obtain rfl : mid = st.performAll ops := hops
    obtain ⟨more, hmore⟩ := hf a (st.performAll ops)
    exact ⟨ops ++ more, hmore.trans (st.performAll_append ops more).symm⟩

/-- A step may look at the state before it works. -/
theorem get_bind {f : State → Step β} (hf : ∀ st, (f st).Operates) :
    Step.Operates (get >>= f) :=
  fun st => hf st st

theorem modify {f : State → State} (hf : ∀ st : State, ∃ ops, f st = st.performAll ops) :
    Step.Operates (modify f : Step Unit) := hf

/-- An operation by itself. -/
theorem of_act (op : Operation) {x : Step α} {reply : α → Reply}
    (hop : recording.act op = reply <$> x) : x.Operates := by
  intro st
  refine ⟨[op], ?_⟩
  show leaves x st = st.perform op
  rw [State.perform_eq hop, leaves]
  cases x st <;> rfl

theorem save (owner : Owner) : Step.Operates (State.save owner) := of_act (.save owner) rfl

theorem dismiss (handle : Handle) : Step.Operates (State.dismiss handle) :=
  of_act (.dismiss handle) rfl

theorem restore (handle : Handle) : Step.Operates (State.restore handle) :=
  of_act (.restore handle) rfl

theorem attempt (owner : Owner) {step : Step Bool} (h : step.Operates) :
    Step.Operates (State.attempt owner step) := by
  refine (save owner).bind fun handle => h.bind fun matched => ?_
  cases matched with
  | true => exact (dismiss handle).bind fun _ => .pure true
  | false => exact (restore handle).bind fun _ => .pure false

end Step.Operates

theorem Handler.operates_of_builtIn {handler : Handler} (h : handler.BuiltIn) :
    handler.Operates :=
  fun _ dest value => ⟨[.edit (.write ⟨handler, h⟩ dest value)], rfl⟩

theorem Handler.Operates.applyAll {handler : Handler} (h : handler.Operates)
    (writes : List (String × Value)) (st : State) :
    ∃ ops, handler.applyAll writes st = st.performAll ops := by
  induction writes generalizing st with
  | nil => exact ⟨[], rfl⟩
  | cons w ws ih =>
    obtain ⟨ops, hops⟩ := h st w.1 w.2
    obtain ⟨more, hmore⟩ := ih (st.performAll ops)
    refine ⟨ops ++ more, ?_⟩
    rw [State.performAll_append, ← hmore, ← hops]
    rfl

namespace Collector

/-- Consuming tokens is an operation. -/
theorem exists_consume_eq (n : Nat) (st : State) : ∃ ops, consume n st = st.performAll ops := by
  rw [consume]
  split
  · exact ⟨[], rfl⟩
  · refine ⟨[.edit (.next n)], ?_⟩
    rw [State.performAll_edit, Edit.onState]
    cases st.next? n <;> rfl

theorem operates_collect (collector : Collector) : collector.collect.Operates := by
  rw [collect_eq]
  refine (Step.Operates.save _).bind fun handle => .get_bind fun st => ?_
  refine (Step.Operates.modify (exists_consume_eq _)).bind fun _ => ?_
  split
  · exact (Step.Operates.dismiss handle).bind fun _ => .pure _
  · exact (Step.Operates.restore handle).bind fun _ => .pure _

end Collector

namespace Rule

theorem operates_onNext (p : String → Bool) : (onNext p).Operates := by
  rw [onNext_eq]
  exact .get_bind fun st => .pure _

theorem operates_replaceNext (f : String → Option String) : (replaceNext f).Operates := by
  rw [replaceNext_eq]
  refine .get_bind fun st => ?_
  split
  · rename_i token _
    refine (Step.Operates.modify fun st => ?_).bind fun _ => .pure true
    refine ⟨[.edit (.setToken 0 token)], ?_⟩
    rw [State.performAll_edit, Edit.onState, State.setToken_zero]
  · exact .pure false

theorem operates_limitStep (id : Nat) (most : Option Nat) : (limitStep id most).Operates := by
  refine .get_bind fun st => ?_
  dsimp only
  split
  · exact .pure false
  · refine (Step.Operates.modify fun st => ?_).bind fun _ => .pure true
    exact ⟨[.edit (.store _ _ _)], rfl⟩

theorem operates_skip (n : Nat) : (run (.skip n)).Operates := by
  intro st
  refine ⟨[.edit (.next n)], ?_⟩
  rw [State.performAll_edit, Step.leaves, run, Step.get_bind, Edit.onState]
  cases st.next? n <;> rfl

theorem operates_notStep (id : Nat) {step : Step Bool} (h : step.Operates) :
    (notStep id step).Operates := by
  refine (Step.Operates.save _).bind fun handle => h.bind fun matched => ?_
  exact (Step.Operates.restore handle).bind fun _ => .pure _

theorem operates_collectStep (collector : Collector) {handler : Handler}
    (h : handler.Operates) : (collectStep collector handler).Operates := by
  refine collector.operates_collect.bind fun values? => ?_
  cases values? with
  | none => exact .pure false
  | some values => exact (Step.Operates.modify fun st => h st _ _).bind fun _ => .pure true

theorem operates_captureStep (id : Nat) (dests : List String) (format : Option RawFormat)
    {handler : Handler} {step : Step Bool} (hh : handler.Operates) (h : step.Operates) :
    (captureStep id dests format handler step).Operates := by
  refine (Step.Operates.save _).bind fun handle => h.bind fun matched => ?_
  cases matched with
  | false => exact (Step.Operates.restore handle).bind fun _ => .pure false
  | true =>
    refine .get_bind fun st => (Step.Operates.dismiss handle).bind fun _ => fun st' => ?_
    obtain ⟨ops, hops⟩ := hh.applyAll (RawFormat.writes dests format (st.consumedTokens handle)) st'
    refine ⟨ops, ?_⟩
    rw [Step.leaves, Handler.record_apply]
    exact hops

theorem operates_runAll {rules : List Rule} (h : ∀ r ∈ rules, r.run.Operates) :
    (runAll rules).Operates := by
  induction rules with
  | nil =>
    rw [runAll]
    exact .pure true
  | cons rule rules ih =>
    obtain ⟨hrule, hrules⟩ := List.forall_mem_cons.mp h
    rw [runAll]
    refine hrule.bind fun matched => ?_
    cases matched with
    | true => exact ih hrules
    | false => exact .pure false

theorem operates_runAny (owner : Owner) {rules : List Rule} (h : ∀ r ∈ rules, r.run.Operates) :
    (runAny owner rules).Operates := by
  induction rules with
  | nil =>
    rw [runAny]
    exact .pure false
  | cons rule rules ih =>
    obtain ⟨hrule, hrules⟩ := List.forall_mem_cons.mp h
    rw [runAny]
    refine (hrule.attempt owner).bind fun matched => ?_
    cases matched with
    | true => exact .pure true
    | false => exact ih hrules

/-- What a rule brings of the user's making, a step or a handler, works through the operations. -/
def OperatesRoot : Rule → Prop
  | .custom step => step.Operates
  | .collect _ handler | .capture _ _ _ _ handler => handler.Operates
  | _ => True

/-- A tree of rules works through the operations if what it has of the user's making does. -/
theorem Each.operates {rule : Rule} (h : rule.Each OperatesRoot) : rule.run.Operates := by
  induction h with
  | @intro rule root _ ih =>
    cases rule with
    | skip n => exact operates_skip n
    | check p => rw [run]; exact operates_onNext p
    | isIn words fold => rw [run]; exact operates_onNext _
    | isEmpty => rw [run]; exact operates_onNext _
    | not id rule => rw [run]; exact operates_notStep id (ih rule List.mem_cons_self)
    | replace f => rw [run]; exact operates_replaceNext f
    | removePrefix ps fold => rw [run]; exact operates_replaceNext _
    | all id rules => rw [run]; exact (operates_runAll ih).attempt _
    | any id rules => rw [run]; exact operates_runAny _ ih
    | limit id most => rw [run]; exact operates_limitStep id most
    | collect collector handler => rw [run]; exact operates_collectStep collector root
    | capture id dests rule format handler =>
      rw [run]
      exact operates_captureStep id dests format root (ih rule List.mem_cons_self)
    | custom step => rw [run]; exact root

theorem Library.operates {rule : Rule} (h : rule.Library Handler.Operates) :
    rule.run.Operates := by
  refine Each.operates (Each.mono (fun r hr => ?_) h)
  cases r with
  | custom step => exact hr.elim
  | collect collector handler => exact hr
  | capture id dests rule format handler => exact hr
  | _ => trivial

end Rule

/-- The rules of all declared arguments work through the operations, if the handlers that some of
the arguments come with do. -/
theorem ArgumentParser.Built.operates {p : ArgumentParser} (h : p.Built Handler.Operates) :
    ∀ r ∈ p.rules, r.run.Operates := fun r hr =>
  (h.sound (fun _ => Handler.operates_of_builtIn) r hr).1.operates

/-! ## Never back before a place -/

namespace TokenBuffer

theorem length_rewind (b : TokenBuffer) (cursor : Nat) (spellings : List (Nat × String)) :
    (b.rewind cursor spellings).tokens.length = b.tokens.length := by
  show (spellings.foldr (fun s b => b.replace s.1 s.2) b).tokens.length = _
  induction spellings with
  | nil => rfl
  | cons s ss ih => rw [List.foldr_cons, replace, List.length_set, ih]

theorem Forward.size_le {b d : TokenBuffer} (h : b.Forward d) : d.size ≤ b.size := by
  obtain ⟨hlength, hcursor, -⟩ := h
  rw [size, size]
  omega

/-- An edit does not move the cursor back. -/
theorem Forward.edit (c : Content) (e : Edit) : c.tokens.Forward (e.onContent c).2.tokens := by
  obtain hsame | ⟨n, taken, htake⟩ | ⟨position, token, hreplace⟩ := e.tokens_onContent c
  · rw [hsame]
    exact .refl _
  · exact .of_take htake
  · rw [hreplace]
    exact .replace ..

/-- Where a savepoint leads back to does not depend on where it is taken back from. -/
theorem Forward.tokensFrom {b c d : TokenBuffer} {sp : Savepoint} (hd : b.Forward d)
    (hsp : b.Forward (sp.tokensFrom c)) (hc : c.tokens.length = d.tokens.length) :
    b.Forward (sp.tokensFrom d) := by
  cases htokens : sp.tokens with
  | none => rwa [Savepoint.tokensFrom_none htokens]
  | some s =>
    simp only [Savepoint.tokensFrom, htokens] at hsp ⊢
    refine ⟨(length_rewind ..).trans hd.length, hsp.cursor, fun hmove => ?_⟩
    have hinside := hsp.inside hmove
    rwa [length_rewind, cursor_rewind, ← hc, ← length_rewind c s.cursor s.spellings]

end TokenBuffer

/-- The cursor is not before that of a buffer, and no open savepoint leads back before it. -/
structure State.Beyond (b : TokenBuffer) (st : State) : Prop where
  now : b.Forward st.tokens
  back : ∀ sp ∈ st.savepoints, b.Forward (sp.tokensFrom st.tokens)

namespace State.Beyond

variable {b : TokenBuffer} {st : State}

theorem refl (h : st.savepoints = []) : st.Beyond st.tokens :=
  ⟨.refl _, fun sp hsp => by rw [h] at hsp; exact nomatch hsp⟩

theorem edit (h : st.Beyond b) (e : Edit) : (e.onState st).2.Beyond b := by
  obtain ⟨⟨f, hf, hrecording⟩, -, hcontent⟩ := e.onState_eq st
  refine ⟨?_, fun sp hsp => ?_⟩
  · have htokens : (e.onState st).2.tokens = (e.onContent st.content).2.tokens :=
      congrArg Content.tokens hcontent
    rw [htokens]
    exact h.now.trans (.edit st.content e)
  · rw [hf] at hsp
    obtain ⟨older, holder, rfl⟩ := List.mem_map.mp hsp
    have hnow : (f older).tokensFrom (e.onState st).2.tokens = older.tokensFrom st.tokens :=
      congrArg Content.tokens (hrecording.now older)
    rw [hnow]
    exact h.back older holder

theorem opened (h : st.Beyond b) (owner : Owner) : (st.opened owner).Beyond b := by
  refine ⟨h.now, fun sp hsp => ?_⟩
  obtain rfl | hsp := List.mem_cons.mp hsp
  · rw [Savepoint.tokensFrom_none rfl]
    exact h.now
  · exact h.back sp hsp

theorem dismissed (h : st.Beyond b) {sp : Savepoint} {rest : List Savepoint}
    (hsps : st.savepoints = sp :: rest) : (st.content.under rest).Beyond b :=
  ⟨h.now, fun older holder => h.back older (hsps ▸ List.mem_cons_of_mem sp holder)⟩

theorem restored (h : st.Beyond b) {sp : Savepoint} {rest : List Savepoint}
    (hsps : st.savepoints = sp :: rest) : ((st.content.rollBack sp).under rest).Beyond b := by
  have hback : b.Forward (sp.tokensFrom st.tokens) := h.back sp (hsps ▸ List.mem_cons_self)
  refine ⟨hback, fun older holder => ?_⟩
  have holder' := h.back older (hsps ▸ List.mem_cons_of_mem sp holder)
  exact hback.tokensFrom holder' (h.now.length.trans hback.length.symm)

/-- An operation does not lead back before the place. -/
theorem perform (h : st.Beyond b) (op : Operation) : (st.perform op).Beyond b := by
  obtain heq | ⟨e, heq⟩ | ⟨owner, heq⟩ | ⟨sp, rest, hsps, heq | heq⟩ := st.perform_cases op <;>
    rw [heq]
  · exact h
  · exact h.edit e
  · exact h.opened owner
  · exact h.dismissed hsps
  · exact h.restored hsps

/-- Nor does any number of operations. -/
theorem performAll (h : st.Beyond b) (ops : List Operation) : (st.performAll ops).Beyond b := by
  induction ops generalizing st with
  | nil => exact h
  | cons op ops ih => exact ih (h.perform op)

end State.Beyond

/-! ## Rounds -/

namespace TokenParser

variable {p : TokenParser} {mode : Mode} {st mid : State}

/-- One round of the loop: a match, or tokens that are given up. -/
def round (p : TokenParser) (mode : Mode) : Step (List String) := do
  if ← p.advance then return [] else skip mode

theorem operates_advance (h : ∀ r ∈ p.rules, r.run.Operates) : p.advance.Operates := by
  intro st
  rw [Step.leaves, advance_eq_attempt]
  have hprogress : (p.progress st.tokens.size).Operates :=
    (Rule.operates_runAny .choice h).bind fun _ => .get_bind fun _ => .pure _
  exact hprogress.attempt .driver st

/-- A round starts with no savepoint open, and so it ends, unless it fails. A rule that leaves one
open, or releases one that is not its own, may make the round fail, and no more. -/
theorem savepoints_of_advance (hst : st.savepoints = []) {matched : Bool}
    (hadv : p.advance st = .ok matched mid) : mid.savepoints = [] := by
  rw [advance_eq_attempt] at hadv
  obtain ⟨inner, -, -, hrelease⟩ := State.attempt_eq_ok.mp hadv
  have hdepth : mid.depth = st.depth := by
    cases matched with
    | true =>
      obtain ⟨sp, hpop⟩ := State.dismiss_eq_ok.mp hrelease
      exact (State.pop_eq_ok.mp hpop).2.1.symm
    | false =>
      obtain ⟨sp, popped, hpop, rfl⟩ := State.restore_eq_ok.mp hrelease
      exact (State.pop_eq_ok.mp hpop).2.1.symm
  rw [State.depth, State.depth, hst] at hdepth
  exact List.length_eq_zero_iff.mp hdepth

/-- A round leaves no more tokens than there were, whether a rule matches or not. -/
theorem size_le_of_advance (h : ∀ r ∈ p.rules, r.run.Operates) (hst : st.savepoints = [])
    {matched : Bool} (hadv : p.advance st = .ok matched mid) :
    mid.tokens.size ≤ st.tokens.size := by
  obtain ⟨ops, hops⟩ := operates_advance h st
  rw [Step.leaves, hadv] at hops
  obtain rfl : mid = st.performAll ops := hops
  exact ((State.Beyond.refl hst).performAll ops).now.size_le

/-- Giving up leaves fewer tokens, or there are none left to give up. -/
theorem size_of_skip {taken : List String} (h : skip mode mid = .ok taken st) :
    st.tokens.size < mid.tokens.size ∨ st.tokens.size = 0 := by
  cases left : mid.tokens.isEmpty with
  | false =>
    obtain ⟨st', hskip, hlt, -⟩ := skip_eq mode left
    obtain ⟨-, rfl⟩ := EStateM.Result.ok.inj (hskip.symm.trans h)
    exact .inl hlt
  | true =>
    have hnil := (TokenBuffer.isEmpty_iff _).mp left
    have hrest := remaining_of_skip h
    rw [hnil] at hrest
    rw [← st.tokens.length_remaining, (List.append_eq_nil_iff.mp hrest.symm).2]
    exact .inr rfl

theorem savepoints_of_skip {taken : List String} (hmid : mid.savepoints = [])
    (h : skip mode mid = .ok taken st) : st.savepoints = [] := by
  obtain ⟨behind, rfl, ⟨-, rfl⟩ | ⟨buffer, -, rfl⟩⟩ := skip_eq_ok h
  · exact (record_unknown ..).2.2 hmid
  · exact (record_unknown ..).2.2 (congrArg (List.map _) hmid)

/-- Giving up never fails. -/
theorem exists_skip (mode : Mode) (st : State) : ∃ taken st', skip mode st = .ok taken st' :=
  ⟨_, _, skip_apply mode st⟩

/-- A round fails, or leaves fewer tokens and no savepoint. -/
theorem round_cases (h : ∀ r ∈ p.rules, r.run.Operates) (mode : Mode) (hst : st.savepoints = [])
    (left : st.tokens.isEmpty = false) :
    (∃ e next, p.round mode st = .error e next) ∨
      ∃ skipped next, p.round mode st = .ok skipped next ∧
        next.tokens.size < st.tokens.size ∧ next.savepoints = [] := by
  rw [round, Step.bind_apply]
  cases hadv : p.advance st with
  | error e mid => exact .inl ⟨e, mid, rfl⟩
  | ok matched mid =>
    have hsps := savepoints_of_advance hst hadv
    cases matched with
    | true => exact .inr ⟨[], mid, rfl, lt_of_advance hadv, hsps⟩
    | false =>
      obtain ⟨taken, next, hskip⟩ := exists_skip mode mid
      have hle := size_le_of_advance h hst hadv
      have hpos : st.tokens.size ≠ 0 := by simpa [TokenBuffer.isEmpty] using left
      refine .inr ⟨taken, next, hskip, ?_, savepoints_of_skip hsps hskip⟩
      obtain hlt | hzero := size_of_skip hskip <;> omega

theorem savepoints_of_position (hst : st.savepoints = []) {here : State}
    (hpos : Position p mode st here) : here.savepoints = [] := by
  induction hpos with
  | start => exact hst
  | matched _ _ advances ih => exact savepoints_of_advance ih advances
  | skipped _ _ advances skips ih =>
    exact savepoints_of_skip (savepoints_of_advance ih advances) skips

/-! ## The loop -/

/-- The result of a loop behind a round that gave up on tokens. -/
def behind (skipped : List String) :
    EStateM.Result Error State (List String) → EStateM.Result Error State (List String)
  | .ok unparsed st => .ok (skipped ++ unparsed) st
  | .error e st => .error e st

/-- The loop comes to a result in so many rounds: each of them is made where tokens are left, and
the last one fails or leaves none. -/
inductive Rounds (p : TokenParser) (mode : Mode) :
    Nat → State → EStateM.Result Error State (List String) → Prop where
  | done {st : State} (none_left : st.tokens.isEmpty = true) : Rounds p mode 0 st (.ok [] st)
  | failed {st mid : State} {e : Error} (left : st.tokens.isEmpty = false)
      (fails : p.round mode st = .error e mid) : Rounds p mode 1 st (.error e mid)
  | passed {count : Nat} {st mid : State} {skipped : List String}
      {result : EStateM.Result Error State (List String)} (left : st.tokens.isEmpty = false)
      (passes : p.round mode st = .ok skipped mid) (rest : Rounds p mode count mid result) :
      Rounds p mode (count + 1) st (behind skipped result)

theorem consumeAll_eq_round (left : st.tokens.isEmpty = false) (rounds : Nat) :
    p.consumeAll mode (rounds + 1) st =
      match p.round mode st with
      | .ok skipped mid => behind skipped (p.consumeAll mode rounds mid)
      | .error e mid => .error e mid := by
  rw [consumeAll_succ left, round, Step.bind_apply]
  cases p.advance st with
  | error e mid => rfl
  | ok matched mid =>
    cases matched with
    | true =>
      show p.consumeAll mode rounds mid = behind [] (p.consumeAll mode rounds mid)
      cases p.consumeAll mode rounds mid <;> rfl
    | false =>
      obtain ⟨taken, next, hskip⟩ := exists_skip mode mid
      simp only [Bool.false_eq_true, if_false, Step.bind_apply, hskip]
      cases p.consumeAll mode rounds next <;> rfl

/-- From a place with no open savepoint, the loop comes to its result in at most as many rounds as
tokens are left. A bound of rounds that is not below that does not matter. -/
theorem exists_rounds (h : ∀ r ∈ p.rules, r.run.Operates) (mode : Mode) (hst : st.savepoints = []) :
    ∃ count ≤ st.tokens.size, ∃ result, Rounds p mode count st result ∧
      ∀ rounds, st.tokens.size ≤ rounds → p.consumeAll mode rounds st = result := by
  induction hsize : st.tokens.size using Nat.strong_induction_on generalizing st with
  | _ size ih =>
    cases left : st.tokens.isEmpty with
    | true =>
      exact ⟨0, Nat.zero_le _, _, .done left,
        fun rounds _ => consumeAll_of_isEmpty left mode rounds⟩
    | false =>
      have hpos : st.tokens.size ≠ 0 := by simpa [TokenBuffer.isEmpty] using left
      have hfirst (rounds : Nat) (hrounds : size ≤ rounds) :
          ∃ fewer, rounds = fewer + 1 := ⟨rounds - 1, by omega⟩
      obtain ⟨e, next, hround⟩ | ⟨skipped, next, hround, hlt, hsps⟩ := round_cases h mode hst left
      · refine ⟨1, by omega, _, .failed left hround, fun rounds hrounds => ?_⟩
        obtain ⟨fewer, rfl⟩ := hfirst rounds hrounds
        rw [consumeAll_eq_round left, hround]
      · obtain ⟨count, hcount, result, hrest, heq⟩ := ih _ (hsize ▸ hlt) hsps rfl
        refine ⟨count + 1, by omega, _, .passed left hround hrest, fun rounds hrounds => ?_⟩
        obtain ⟨fewer, rfl⟩ := hfirst rounds hrounds
        rw [consumeAll_eq_round left, hround]
        exact congrArg (behind skipped) (heq fewer (by omega))

end TokenParser

/-! ## The loop over the values -/

namespace Collector

variable {c : Collector} {st mid : State} {values : List Value}

/-- One turn of the loop over the values, with some of them taken already. It takes the next token
as one more value, or the loop ends. -/
def turn? (c : Collector) (values : List Value) (st : State) : Option (List Value × State) :=
  match st.tokens.remaining with
  | [] => none
  | token :: _ =>
    if !c.bounds.allowsMore values.length || !c.filter.accepts token then none
    else if c.filter.looksLikeFlag token && c.bounds.least ≤ values.length then none
    else (c.filter.valueOf? token).map fun value => (values ++ [value], consume 1 st)

/-- The loop over the values ends in so many turns, the one that finds the end included, with the
values that are taken then. -/
inductive Turns (c : Collector) : Nat → List Value → State → List Value → State → Prop where
  | ended {values : List Value} {st : State} (ends : c.turn? values st = none) :
      Turns c 1 values st values st
  | taken {count : Nat} {values more final : List Value} {st mid st' : State}
      (takes : c.turn? values st = some (more, mid)) (rest : Turns c count more mid final st') :
      Turns c (count + 1) values st final st'

theorem consume_eq {n : Nat} (hpos : n ≠ 0) (hn : n ≤ st.tokens.size) :
    consume n st =
      { st.captureTokens with tokens := { st.tokens with cursor := st.tokens.cursor + n } } := by
  have htake : st.tokens.take? n = some _ := if_neg (Nat.not_lt.mpr hn)
  rw [consume, if_neg hpos, State.next?, htake]
  rfl

/-- Consuming one token and then others is consuming all of them: the savepoints know the place of
the first one. -/
theorem consume_consume_one {n : Nat} (hn : n + 1 ≤ st.tokens.size) :
    consume n (consume 1 st) = consume (n + 1) st := by
  cases n with
  | zero => rfl
  | succ n =>
    have hone : consume 1 st = _ := consume_eq Nat.one_ne_zero (by omega)
    have hrest : n + 1 ≤ (consume 1 st).tokens.size := by
      rw [hone]
      simp only [TokenBuffer.size] at hn ⊢
      omega
    rw [consume_eq (Nat.succ_ne_zero n) hrest, consume_eq (Nat.succ_ne_zero _) hn, hone]
    simp only [State.captureTokens, State.mapSavepoints, List.map_map, Function.comp_def,
      Option.getD_some]
    congr 2
    omega

/-- A turn ends the loop where nothing more is gathered, and takes the first value that is gathered
otherwise. -/
theorem turn?_cases (c : Collector) (values : List Value) {token : String} {rest : List String}
    (hleft : st.tokens.remaining = token :: rest) :
    (c.turn? values st = none ∧ c.gather values.length (token :: rest) = []) ∨
      ∃ value, c.turn? values st = some (values ++ [value], consume 1 st) ∧
        c.gather values.length (token :: rest) = value :: c.gather (values.length + 1) rest := by
  rw [turn?, hleft, gather]
  dsimp only
  by_cases hrefused : (!c.bounds.allowsMore values.length || !c.filter.accepts token) = true
  · rw [if_pos hrefused, if_pos hrefused]
    exact .inl ⟨rfl, rfl⟩
  · rw [if_neg hrefused, if_neg hrefused]
    by_cases hflag : (c.filter.looksLikeFlag token && c.bounds.least ≤ values.length) = true
    · rw [if_pos hflag, if_pos hflag]
      exact .inl ⟨rfl, rfl⟩
    · rw [if_neg hflag, if_neg hflag]
      cases c.filter.valueOf? token with
      | none => exact .inl ⟨rfl, rfl⟩
      | some value => exact .inr ⟨value, rfl, rfl⟩

/-- Turn by turn, the loop takes the values that are gathered from the tokens that are left. There
is one turn for each of them, and one that finds the end. -/
theorem turns_gather (c : Collector) (values : List Value) (st : State) :
    c.Turns ((c.gather values.length st.tokens.remaining).length + 1) values st
      (values ++ c.gather values.length st.tokens.remaining)
      (consume (c.gather values.length st.tokens.remaining).length st) := by
  induction hleft : st.tokens.remaining generalizing values st with
  | nil =>
    rw [gather, List.append_nil]
    exact .ended (by rw [turn?, hleft])
  | cons token rest ih =>
    obtain ⟨hends, hgather⟩ | ⟨value, htakes, hgather⟩ := c.turn?_cases values hleft
    · rw [hgather, List.append_nil]
      exact .ended hends
    · have hsize : rest.length + 1 = st.tokens.size := by
        rw [← st.tokens.length_remaining, hleft, List.length_cons]
      have hfew := c.length_gather_le (values.length + 1) rest
      have hnext : (consume 1 st).tokens.remaining = rest := by
        rw [consume_eq Nat.one_ne_zero (by omega), TokenBuffer.remaining_advance, hleft]
        rfl
      have hturns := ih (values ++ [value]) (consume 1 st) hnext
      rw [List.length_append, List.length_singleton, consume_consume_one (by omega),
        List.append_assoc, List.singleton_append] at hturns
      rw [hgather]
      exact .taken htakes hturns

end Collector

/-! ## Parses -/

/-- Releases the savepoints of the loop, consumes a token, opens other savepoints in their place,
and does not match. -/
def Rule.usurp : Rule :=
  .custom do
    State.dismiss ⟨1⟩
    State.dismiss ⟨0⟩
    modify (Collector.consume 1)
    let _ ← State.save (.rule 1)
    let _ ← State.save (.rule 2)
    return false

theorem Rule.operates_usurp : usurp.run.Operates := by
  refine Each.operates (.intro ?_ fun r hr => nomatch hr)
  refine (Step.Operates.dismiss ⟨1⟩).bind fun _ => (Step.Operates.dismiss ⟨0⟩).bind fun _ => ?_
  refine (Step.Operates.modify (Collector.exists_consume_eq 1)).bind fun _ => ?_
  exact (Step.Operates.save _).bind fun _ => (Step.Operates.save _).bind fun _ => .pure false

end TokenGrammar
