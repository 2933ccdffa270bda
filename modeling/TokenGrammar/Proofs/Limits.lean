import Mathlib.Algebra.GroupWithZero.Nat
import TokenGrammar.Proofs.FullCopies
import TokenGrammar.Proofs.Greedy

/-!
# Limits

A limit counts its matches in a value that it keeps, and savepoints put that value back with all
else. So the count is that of the matches that were not taken back. It is a word with a sign, and so
is the bound that it is compared with.

* `Ledger`: a state with an account of one limit: its matches that stand, by the savepoint under
  which they were made, and a log of all its attempts. `Rule.audit` and `Act.audit` run a rule, or
  what else a caller does with a state, and keep that account;
* `Counted`: the kept count is the number of matches that stand, in the content and in the copy that
  each open savepoint tracks;
* `Audits`: an audited step does to the state what the step does, and keeps the account right.
  `Audits.bind`, `Audits.attempt` and their like: audited steps are made of audited steps;
* `Rule.Each.audits`: a tree of rules, in which the limit may stand in any places, by induction;
* `Ledger.log_limiter`: after whatever a caller did, each attempt in the log matched just if fewer
  matches stood than the bound, or if there is none. A bound of 2^63 and more counts as a negative
  one, under which there is never a match.
-/

namespace TokenGrammar

/-! ## An account of one limit -/

/-- One attempt of a limit: how many of its matches stood, and whether it matched. -/
structure Trial where
  standing : Nat
  matched : Bool
deriving DecidableEq, Repr

/-- A state of a parse with an account of one limit. -/
structure Ledger where
  state : State
  /-- The matches since each open savepoint was opened, the youngest first, and last those before
  all of them. -/
  counts : List Nat
  /-- All attempts, the latest first. -/
  log : List Trial

namespace Ledger

/-- The account at the start of a parse. -/
def start (tokens : List String) (attributes : Option Namespace) : Ledger :=
  ⟨.start tokens attributes, [0], []⟩

/-- How many matches were not taken back. -/
def standing (l : Ledger) : Nat := l.counts.sum

/-- A step in which the limit is not tried and no savepoint stays open. -/
def lift {α : Type} (step : Step α) : EStateM Error Ledger α := fun l =>
  match step l.state with
  | .ok a st => .ok a { l with state := st }
  | .error e st => .error e { l with state := st }

/-- Opens a savepoint, with no match under it yet. -/
def save (owner : Owner) : EStateM Error Ledger Handle := do
  let handle ← lift (State.save owner)
  modify fun l => { l with counts := 0 :: l.counts }
  return handle

/-- The matches under the youngest savepoint stand as those under the one before it do. -/
def merge : List Nat → List Nat
  | last :: first :: rest => (last + first) :: rest
  | counts => counts

/-- Releases a savepoint and keeps the matches under it. -/
def dismiss (handle : Handle) : EStateM Error Ledger Unit := do
  lift (State.dismiss handle)
  modify fun l => { l with counts := merge l.counts }

/-- Releases a savepoint and takes back the matches under it. -/
def restore (handle : Handle) : EStateM Error Ledger Unit := do
  lift (State.restore handle)
  modify fun l => { l with counts := l.counts.tail }

/-- Runs a step under a savepoint, which keeps the changes if the step matches and takes them back
otherwise. -/
def attempt (owner : Owner) (step : EStateM Error Ledger Bool) : EStateM Error Ledger Bool := do
  let handle ← save owner
  if ← step then
    dismiss handle
    return true
  else
    restore handle
    return false

/-- Tries the limit and enters it. -/
def trial (id : Nat) (most : Option Nat) : EStateM Error Ledger Bool := do
  let standing := (← get).standing
  let matched ← lift (Rule.limitStep id most)
  modify fun l => { l with
    counts := if matched then l.counts.modifyHead (· + 1) else l.counts
    log := ⟨standing, matched⟩ :: l.log }
  return matched

end Ledger

namespace Rule

mutual

/-- Runs a rule and keeps account of the limit with the number. -/
def audit (id : Nat) : Rule → EStateM Error Ledger Bool
  | .not own rule => do
    let handle ← Ledger.save (.rule own)
    let matched ← rule.audit id
    Ledger.restore handle
    return !matched
  | .all own rules => Ledger.attempt (.rule own) (auditAll id rules)
  | .any own rules => auditAny id (.rule own) rules
  | .limit own most => if own = id then Ledger.trial id most else Ledger.lift (limitStep own most)
  | .capture own dests rule format handler => do
    let handle ← Ledger.save (.rule own)
    if ← rule.audit id then
      let consumed := (← get).state.consumedTokens handle
      Ledger.dismiss handle
      let writes := RawFormat.writes dests format consumed
      Ledger.lift (modify (handler.applyAll writes))
      return true
    else
      Ledger.restore handle
      return false
  | rule => Ledger.lift rule.run

/-- Runs rules one after the other, until one does not match. -/
def auditAll (id : Nat) : List Rule → EStateM Error Ledger Bool
  | [] => return true
  | rule :: rules => do
    if ← rule.audit id then auditAll id rules else return false

/-- Runs rules under a savepoint each, until one matches. -/
def auditAny (id : Nat) (owner : Owner) : List Rule → EStateM Error Ledger Bool
  | [] => return false
  | rule :: rules => do
    if ← Ledger.attempt owner (rule.audit id) then return true else auditAny id owner rules

end

end Rule

/-- What a caller does with the state of a parse: it runs a rule, edits the content, or opens or
releases a savepoint by itself. -/
inductive Act where
  | run (rule : Rule)
  | edit (e : Edit)
  | save (owner : Owner)
  | dismiss (handle : Handle)
  | restore (handle : Handle)

/-- The state after a step, whether it failed or not. -/
def Step.leaves {ε σ α : Type} (step : EStateM ε σ α) (s : σ) : σ :=
  match step s with
  | .ok _ s' | .error _ s' => s'

namespace Act

/-- The state after an act. -/
def onState (st : State) : Act → State
  | .run rule => Step.leaves rule.run st
  | .edit e => (e.onState st).2
  | .save owner => Step.leaves (State.save owner) st
  | .dismiss handle => Step.leaves (State.dismiss handle) st
  | .restore handle => Step.leaves (State.restore handle) st

/-- The account of the limit with the number after an act. -/
def onLedger (id : Nat) (l : Ledger) : Act → Ledger
  | .run rule => Step.leaves (rule.audit id) l
  | .edit e => { l with state := (e.onState l.state).2 }
  | .save owner => Step.leaves (Ledger.save owner) l
  | .dismiss handle => Step.leaves (Ledger.dismiss handle) l
  | .restore handle => Step.leaves (Ledger.restore handle) l

end Act

/-! ## What the account says -/

/-- The count that a content keeps is the number of matches under all savepoints from its own on. -/
inductive Counted (id : Nat) : List Content → List Nat → Prop where
  | nil : Counted id [] []
  | cons {c : Content} {cs : List Content} {n : Nat} {ns : List Nat}
      (count : c.scratch.count id = .ofNat (n + ns.sum)) (rest : Counted id cs ns) :
      Counted id (c :: cs) (n :: ns)

namespace Counted

variable {id : Nat} {c d : Content} {cs : List Content} {n : Nat} {ns : List Nat}

theorem tail (h : Counted id (c :: cs) (n :: ns)) : Counted id cs ns := by
  cases h
  assumption

theorem top (h : Counted id (c :: d :: cs) ns) :
    ∃ n m ms, ns = n :: m :: ms ∧ c.scratch.count id = .ofNat (n + (m + ms.sum)) ∧
      Counted id (d :: cs) (m :: ms) := by
  obtain _ | @⟨_, _, n, _, count, rest⟩ := h
  obtain _ | @⟨_, _, m, ms, count', rest'⟩ := rest
  exact ⟨n, m, ms, rfl, by simpa using count, .cons count' rest'⟩

/-- One more match under the youngest savepoint. -/
theorem enter (h : Counted id (c :: cs) ns) (hcount : d.scratch.count id = .ofNat (ns.sum + 1)) :
    Counted id (d :: cs) (ns.modifyHead (· + 1)) ∧
      (ns.modifyHead (· + 1)).sum = ns.sum + 1 := by
  obtain _ | @⟨_, _, n, ns, _, rest⟩ := h
  have hsum : n + 1 + ns.sum = (n :: ns).sum + 1 := by
    rw [List.sum_cons]
    omega
  exact ⟨.cons (by rw [hsum, hcount]) rest, hsum⟩

end Counted

/-- Whether a limit admits one more match. From 2^63 on, the bound counts as a negative number. -/
def Rule.admits (most : Option Nat) (standing : Nat) : Bool :=
  most.all fun bound => bound < 2 ^ 63 && standing < bound

/-- The account is right: the kept count is the number of matches that stand, now and after every
rollback, and the attempts in the log matched where the limit admits a match. -/
structure Ledger.Balanced (id : Nat) (most : Option Nat) (l : Ledger) : Prop where
  counted : ∃ s : Copying, Agree l.state s ∧ Counted id (s.content :: s.copies.map (·.2)) l.counts
  few : l.standing ≤ l.log.length
  fair : l.log.length < 2 ^ 63 → ∀ t ∈ l.log, t.matched = Rule.admits most t.standing

/-- Up to 2^63 matches the comparison of words is that of numbers, apart from large bounds. -/
theorem Int64.ofNat_le_ofNat_iff {bound n : Nat} (hn : n < 2 ^ 63) (hbound : bound < 2 ^ 64) :
    Int64.ofNat bound ≤ Int64.ofNat n ↔ 2 ^ 63 ≤ bound ∨ bound ≤ n := by
  rw [Int64.le_iff_toInt_le, Int64.toInt_ofNat', Int64.toInt_ofNat_of_lt hn, Int.bmod_def]
  simp only [Int64.size]
  split <;> omega

theorem Rule.not_any_eq_admits {most : Option Nat} {n : Nat} (hn : n < 2 ^ 63)
    (hmost : ∀ bound ∈ most, bound < 2 ^ 64) :
    (!most.any fun bound => decide (Int64.ofNat bound ≤ Int64.ofNat n)) = admits most n := by
  cases most with
  | none => rfl
  | some bound =>
    have hle := Int64.ofNat_le_ofNat_iff hn (hmost bound rfl)
    rw [Bool.eq_iff_iff]
    simp only [admits, Option.any_some, Option.all_some, Bool.not_eq_true', Bool.and_eq_true,
      decide_eq_false_iff_not, decide_eq_true_eq, hle, not_or, Nat.not_le]

/-! ## Steps without the limit -/

/-- The second state follows the first by a change that is recorded, and the kept count stays. -/
def State.KeepsCount (id : Nat) (st st' : State) : Prop :=
  State.Records st st' ∧ st'.scratch.count id = st.scratch.count id

theorem State.KeepsCount.refl (id : Nat) (st : State) : st.KeepsCount id st := ⟨.refl st, rfl⟩

theorem State.KeepsCount.trans {id : Nat} {st mid st' : State} (h : st.KeepsCount id mid)
    (h' : mid.KeepsCount id st') : st.KeepsCount id st' := ⟨h.1.trans h'.1, h'.2.trans h.2⟩

/-- Whether it fails or not, the step leaves the kept count, and the savepoints with what they put
back. -/
def Step.Quiet {α : Type} (id : Nat) (step : Step α) : Prop :=
  ∀ st, (∃ a st', step st = .ok a st' ∧ st.KeepsCount id st') ∨
    ∃ e st', step st = .error e st' ∧ st.KeepsCount id st'

namespace Step.Quiet

variable {α β : Type} {id : Nat}

theorem pure (a : α) : Step.Quiet id (Pure.pure a) := fun st => .inl ⟨a, st, rfl, .refl id st⟩

theorem bind {x : Step α} {f : α → Step β} (hx : Step.Quiet id x) (hf : ∀ a, (f a).Quiet id) :
    Step.Quiet id (x >>= f) := by
  intro st
  simp only [Step.bind_apply]
  obtain ⟨a, mid, hrun, hmid⟩ | ⟨e, mid, hrun, hmid⟩ := hx st
  · rw [hrun]
    obtain ⟨b, st', hrun', hst'⟩ | ⟨e, st', hrun', hst'⟩ := hf a mid
    · exact .inl ⟨b, st', hrun', hmid.trans hst'⟩
    · exact .inr ⟨e, st', hrun', hmid.trans hst'⟩
  · rw [hrun]
    exact .inr ⟨e, mid, rfl, hmid⟩

theorem modify {f : State → State} (hf : ∀ st : State, st.KeepsCount id (f st)) :
    Step.Quiet id (modify f : Step Unit) :=
  fun st => .inl ⟨(), f st, rfl, hf st⟩

/-- A step that acts on contents whatever savepoints are open. -/
theorem of_acts {step : Step α} (h : ∀ c, ∃ a d, step.Acts (fun _ => True) c a d ∧
    d.scratch.count id = c.scratch.count id) : Step.Quiet id step := by
  intro st
  obtain ⟨a, d, ⟨f, hf, hrun⟩, hcount⟩ := h st.content
  exact .inl ⟨a, _, hrun st.savepoints fun _ _ => trivial, ⟨f, rfl, hf⟩, hcount⟩

end Step.Quiet

/-- The handler leaves the kept count, and the savepoints with what they put back. -/
def Handler.Quiet (id : Nat) (handler : Handler) : Prop :=
  ∀ (st : State) dest value, st.KeepsCount id (handler.apply st dest value)

/-- The handlers of the library leave every count. -/
theorem Handler.quiet_of_builtIn {handler : Handler} (h : handler.BuiltIn) (id : Nat) :
    handler.Quiet id := by
  intro st dest value
  obtain ⟨hrecords, hcontent⟩ := State.Records.of_recorded (Recorded.apply h st.content dest value)
  exact ⟨hrecords, congrArg (·.scratch.count id) hcontent⟩

theorem Handler.Quiet.applyAll {handler : Handler} {id : Nat} (h : handler.Quiet id)
    (writes : List (String × Value)) (st : State) :
    st.KeepsCount id (handler.applyAll writes st) := by
  induction writes generalizing st with
  | nil => exact .refl id st
  | cons w ws ih => exact (h st w.1 w.2).trans (ih _)

/-- An edit that does not touch the count of the limit. -/
def Edit.Spares (id : Nat) : Edit → Prop
  | .store owner key _ => ¬ (owner = .rule id ∧ key = Rule.counterKey)
  | _ => True

theorem Scratch.count_set_of_ne (s : Scratch) {id : Nat} {owner : Owner} {key : String}
    (h : ¬ (owner = .rule id ∧ key = Rule.counterKey)) (value : Value) :
    (s.set owner key value).count id = s.count id := by
  have hne : ¬ (Owner.rule id = owner ∧ Rule.counterKey = key) :=
    fun heq => h ⟨heq.1.symm, heq.2.symm⟩
  rw [count, get?_set, if_neg hne, count]

theorem Edit.keepsCount {e : Edit} {id : Nat} (h : e.Spares id) (st : State) :
    st.KeepsCount id (e.onState st).2 := by
  obtain ⟨hrecords, -, hcontent⟩ := e.onState_eq st
  refine ⟨hrecords, (congrArg (·.scratch.count id) hcontent).trans ?_⟩
  cases e with
  | next n | setToken index token =>
    simp only [onContent]
    split <;> rfl
  | store owner key value => exact st.scratch.count_set_of_ne h value
  | write how name value => rfl

theorem Collector.quiet_collect (id : Nat) (collector : Collector) :
    Step.Quiet id collector.collect := by
  intro st
  by_cases hfree : ∀ sp ∈ st.savepoints, sp.owner ≠ .rule collector.id
  · obtain ⟨hrecords, hcontent⟩ :=
      State.Records.of_recorded (collector.recorded_after st.content)
    rw [collect_eq_consume hfree]
    split
    · exact .inl ⟨_, _, rfl, hrecords, congrArg (·.scratch.count id) hcontent⟩
    · refine .inl ⟨_, _, rfl, ?_, rfl⟩
      obtain ⟨f, hf, rf⟩ := hrecords
      rw [hcontent] at rf
      exact ⟨f, hf, rf.undo⟩
  · -- the owner has a savepoint already, so none is opened
    have hsave : State.save (.rule collector.id) st =
        .error (.grammar (.duplicateSavepoint (.rule collector.id))) st := by
      rw [State.save_eq, if_pos (by simpa using hfree)]
    rw [collect_eq, Step.bind_apply, hsave]
    exact .inr ⟨_, st, rfl, .refl id st⟩

namespace Rule

variable {id : Nat}

theorem quiet_collectStep (collector : Collector) {handler : Handler} (hh : handler.Quiet id) :
    Step.Quiet id (collectStep collector handler) := by
  refine (collector.quiet_collect id).bind fun values? => ?_
  cases values? with
  | none => exact .pure false
  | some values => exact (Step.Quiet.modify fun st => hh st _ _).bind fun _ => .pure true

theorem quiet_replaceNext (f : String → Option String) : Step.Quiet id (replaceNext f) := by
  refine .of_acts fun c => ?_
  cases hf : c.tokens.head?.bind f with
  | none => exact ⟨false, c, acts_replaceNext_none hf, rfl⟩
  | some token => exact ⟨true, _, acts_replaceNext_some hf, rfl⟩

theorem quiet_skip (n : Nat) : Step.Quiet id (run (.skip n)) := by
  refine .of_acts fun c => ?_
  cases hn : c.tokens.take? n with
  | none => exact ⟨false, c, acts_skip_none hn, rfl⟩
  | some taken => exact ⟨true, _, acts_skip_some hn, rfl⟩

theorem quiet_limitStep {own : Nat} (h : own ≠ id) (most : Option Nat) :
    Step.Quiet id (limitStep own most) := by
  refine .of_acts fun c => ⟨_, _, acts_limitStep own most, ?_⟩
  split
  · rfl
  · exact c.scratch.count_set_of_ne (fun heq => h (Owner.rule.inj heq.1)) _

end Rule

/-! ## Audited steps -/

theorem Copying.pop_eq_ok {handle : Handle} {s s' : Copying} {copy : Content}
    (h : Copying.pop handle s = .ok copy s') :
    ∃ owner, s.copies = (owner, copy) :: s'.copies ∧ s'.content = s.content := by
  rw [pop_eq] at h
  split at h
  · cases h
  · rename_i top rest hcopies
    split at h
    · obtain ⟨rfl, rfl⟩ := EStateM.Result.ok.inj h
      exact ⟨top.1, hcopies, rfl⟩
    · cases h

variable {id : Nat} {most : Option Nat}

/-- From a right account the audited step does to the state what the step does, and leaves a right
account, whether they fail or not. -/
def Audits (id : Nat) (most : Option Nat) {α : Type} (x : EStateM Error Ledger α) (y : Step α) :
    Prop :=
  ∀ l : Ledger, l.Balanced id most →
    (∃ a l', x l = .ok a l' ∧ y l.state = .ok a l'.state ∧ l'.Balanced id most) ∨
      ∃ e l', x l = .error e l' ∧ y l.state = .error e l'.state ∧ l'.Balanced id most

namespace Ledger.Balanced

variable {l : Ledger}

/-- A change that leaves the kept count leaves the account right. -/
theorem of_keepsCount (h : l.Balanced id most) {st : State} (hst : l.state.KeepsCount id st) :
    Balanced id most { l with state := st } := by
  obtain ⟨s, hagree, hcounted⟩ := h.counted
  refine ⟨⟨{ s with content := st.content }, hagree.records hst.1, ?_⟩, h.few, h.fair⟩
  generalize l.counts = counts at hcounted ⊢
  cases hcounted with
  | cons count rest =>
    refine .cons (hst.2.trans ?_) rest
    rw [← count, ← hagree.content]
    rfl

/-- A savepoint that is opened or released changes what matches are counted under. -/
theorem recount (h : l.Balanced id most) {st : State} {s : Copying} {counts : List Nat}
    (hagree : Agree st s) (hcounted : Counted id (s.content :: s.copies.map (·.2)) counts)
    (hfew : counts.sum ≤ l.standing) : Balanced id most ⟨st, counts, l.log⟩ :=
  ⟨⟨s, hagree, hcounted⟩, hfew.trans h.few, h.fair⟩

/-- An attempt is entered in the log, with the matches that stand after it. -/
theorem enter (h : l.Balanced id most) {matched : Bool} {st : State} {counts : List Nat}
    (hcounted : ∃ s : Copying, Agree st s ∧ Counted id (s.content :: s.copies.map (·.2)) counts)
    (hfew : counts.sum ≤ l.standing + 1)
    (hfair : l.standing < 2 ^ 63 → matched = Rule.admits most l.standing) :
    Balanced id most ⟨st, counts, ⟨l.standing, matched⟩ :: l.log⟩ := by
  have hlog := h.few
  refine ⟨hcounted, ?_, fun hroom => List.forall_mem_cons.mpr ⟨hfair ?_, h.fair ?_⟩⟩
  · simp only [standing, List.length_cons] at *
    omega
  · simp only [List.length_cons] at hroom
    omega
  · simp only [List.length_cons] at hroom
    omega

/-- The kept count is the number of matches that stand. -/
theorem count_eq (h : l.Balanced id most) :
    l.state.scratch.count id = .ofNat l.standing := by
  obtain ⟨s, hagree, hcounted⟩ := h.counted
  have hcontent : l.state.scratch.count id = s.content.scratch.count id := by
    rw [← hagree.content]
    rfl
  rw [hcontent, standing]
  generalize l.counts = counts at hcounted
  cases hcounted with
  | cons count rest => exact count

end Ledger.Balanced

namespace Audits

variable {α β : Type}

theorem pure (a : α) : Audits id most (Pure.pure a) (Pure.pure a) :=
  fun l h => .inl ⟨a, l, rfl, rfl, h⟩

theorem bind {x : EStateM Error Ledger α} {y : Step α} {f : α → EStateM Error Ledger β}
    {g : α → Step β} (hxy : Audits id most x y) (hfg : ∀ a, Audits id most (f a) (g a)) :
    Audits id most (x >>= f) (y >>= g) := by
  intro l h
  simp only [Step.bind_apply]
  obtain ⟨a, l', hx, hy, h'⟩ | ⟨e, l', hx, hy, h'⟩ := hxy l h
  · rw [hx, hy]
    exact hfg a l' h'
  · rw [hx, hy]
    exact .inr ⟨e, l', rfl, rfl, h'⟩

theorem lift {step : Step α} (hstep : step.Quiet id) :
    Audits id most (Ledger.lift step) step := by
  intro l h
  obtain ⟨a, st, hrun, hst⟩ | ⟨e, st, hrun, hst⟩ := hstep l.state
  · exact .inl ⟨a, { l with state := st }, by rw [Ledger.lift, hrun], hrun, h.of_keepsCount hst⟩
  · exact .inr ⟨e, { l with state := st }, by rw [Ledger.lift, hrun], hrun, h.of_keepsCount hst⟩

/-- Audited steps that look at the state. -/
theorem get {f : Ledger → EStateM Error Ledger β} {g : State → Step β}
    (hfg : ∀ l : Ledger, Audits id most (f l) (g l.state)) :
    Audits id most (MonadState.get >>= f) (MonadState.get >>= g) :=
  fun l h => hfg l l h

theorem save (owner : Owner) : Audits id most (Ledger.save owner) (State.save owner) := by
  intro l h
  obtain ⟨s, hagree, hcounted⟩ := h.counted
  rw [Ledger.save, Step.bind_apply, Ledger.lift, State.save_eq]
  by_cases howner : l.state.savepoints.any (·.owner = owner) = true
  · rw [if_pos howner]
    exact .inr ⟨_, l, rfl, rfl, h⟩
  · rw [if_neg howner]
    have hopened : Agree (l.state.opened owner)
        { s with copies := (owner, s.content) :: s.copies } :=
      ⟨hagree.content, hagree.tracks.push owner⟩
    refine .inl ⟨_, ⟨l.state.opened owner, 0 :: l.counts, l.log⟩, rfl, rfl, ?_⟩
    refine h.recount hopened (.cons ?_ hcounted) (by simp [Ledger.standing])
    rw [Nat.zero_add, ← hagree.content]
    exact h.count_eq

/-- Both ways of releasing a savepoint: with the matches under it, and with the copy that it
tracks. -/
theorem pop (handle : Handle) {l : Ledger} (h : l.Balanced id most) :
    (∃ sp st, State.pop handle l.state = .ok sp st ∧
      Ledger.Balanced id most ⟨st, Ledger.merge l.counts, l.log⟩ ∧
      Ledger.Balanced id most ⟨st.rollBack sp, l.counts.tail, l.log⟩) ∨
      ∃ e, State.pop handle l.state = .error e l.state := by
  obtain ⟨s, hagree, hcounted⟩ := h.counted
  obtain ⟨sp, st, copy, s', hpop, hcopy, hkept, hback⟩ | ⟨e, hpop, -⟩ :=
    Respects.pop handle hagree
  · refine .inl ⟨sp, st, hpop, ?_⟩
    obtain ⟨owner, hcopies, hcontent⟩ := Copying.pop_eq_ok hcopy
    rw [hcopies, List.map_cons] at hcounted
    obtain ⟨n, m, ns, hcounts, hcount, hrest⟩ := hcounted.top
    have hfew : n + (m + ns.sum) ≤ l.standing := by simp [Ledger.standing, hcounts]
    rw [hcounts]
    refine ⟨h.recount hkept (.cons ?_ hrest.tail) ?_, h.recount hback hrest ?_⟩
    · rw [hcontent, hcount, Nat.add_assoc]
    · simpa [Ledger.merge, Nat.add_assoc] using hfew
    · exact Nat.le_trans (by simp) hfew
  · exact .inr ⟨e, hpop⟩

theorem dismiss (handle : Handle) :
    Audits id most (Ledger.dismiss handle) (State.dismiss handle) := by
  intro l h
  rw [Ledger.dismiss, Step.bind_apply, Ledger.lift, State.dismiss_eq]
  obtain ⟨sp, st, hpop, hkept, -⟩ | ⟨e, hpop⟩ := pop handle h
  · rw [hpop]
    exact .inl ⟨(), _, rfl, rfl, hkept⟩
  · rw [hpop]
    exact .inr ⟨e, l, rfl, rfl, h⟩

theorem restore (handle : Handle) :
    Audits id most (Ledger.restore handle) (State.restore handle) := by
  intro l h
  rw [Ledger.restore, Step.bind_apply, Ledger.lift, State.restore_eq]
  obtain ⟨sp, st, hpop, -, hback⟩ | ⟨e, hpop⟩ := pop handle h
  · rw [hpop]
    exact .inl ⟨(), _, rfl, rfl, hback⟩
  · rw [hpop]
    exact .inr ⟨e, l, rfl, rfl, h⟩

/-- What is done when a step matches, and when it does not. -/
theorem ite {x f : EStateM Error Ledger β} {y g : Step β} (hthen : Audits id most x y)
    (helse : Audits id most f g) (matched : Bool) :
    Audits id most (if matched then x else f) (if matched then y else g) := by
  cases matched with
  | true => exact hthen
  | false => exact helse

theorem attempt {x : EStateM Error Ledger Bool} {y : Step Bool} (h : Audits id most x y)
    (owner : Owner) : Audits id most (Ledger.attempt owner x) (State.attempt owner y) :=
  (save owner).bind fun handle => h.bind fun matched =>
    .ite ((dismiss handle).bind fun _ => .pure true) ((restore handle).bind fun _ => .pure false)
      matched

/-- An attempt of the limit matches just if the limit admits one more match than stand, and is
counted then. -/
theorem trial (hmost : ∀ bound ∈ most, bound < 2 ^ 64) :
    Audits id most (Ledger.trial id most) (Rule.limitStep id most) := by
  intro l h
  have hcount := h.count_eq
  obtain ⟨s, hagree, hcounted⟩ := h.counted
  have hacts : (Rule.limitStep id most).Acts (fun _ => True) l.state.content _ _ :=
    Rule.acts_limitStep id most
  have hstate : l.state.content.scratch = l.state.scratch := rfl
  rw [hstate, hcount] at hacts
  have hfair (hfew : l.standing < 2 ^ 63) := Rule.not_any_eq_admits hfew hmost
  rw [Ledger.trial, Step.get_bind, Step.bind_apply, Ledger.lift]
  cases hverdict : most.any fun bound => decide (Int64.ofNat bound ≤ Int64.ofNat l.standing) with
  | true =>
    rw [hverdict] at hacts hfair
    obtain ⟨f, hf, hrun⟩ := hacts
    have hrun : Rule.limitStep id most l.state =
        .ok false (l.state.content.under (l.state.savepoints.map f)) :=
      hrun l.state.savepoints fun _ _ => trivial
    rw [hrun]
    refine .inl ⟨false, _, rfl, rfl, h.enter ⟨_, hagree.records ⟨f, rfl, hf⟩, ?_⟩ ?_ hfair⟩
    · rw [Content.content_under, hagree.content]
      exact hcounted
    · exact Nat.le_succ l.standing
  | false =>
    rw [hverdict] at hacts hfair
    obtain ⟨f, hf, hrun⟩ := hacts
    have hrun : Rule.limitStep id most l.state = .ok true (Content.under { l.state.content with
        scratch := l.state.scratch.set (.rule id) Rule.counterKey (.int (.ofNat l.standing + 1)) }
        (l.state.savepoints.map f)) := hrun l.state.savepoints fun _ _ => trivial
    rw [hrun]
    have hkept : (l.state.scratch.set (.rule id) Rule.counterKey
        (.int (.ofNat l.standing + 1))).count id = .ofNat (l.standing + 1) := by
      rw [Scratch.count, Scratch.get?_set, if_pos ⟨rfl, rfl⟩, Int64.ofNat_add]
      rfl
    obtain ⟨hentered, hsum⟩ := hcounted.enter (d := { l.state.content with
      scratch := l.state.scratch.set (.rule id) Rule.counterKey (.int (.ofNat l.standing + 1)) })
      hkept
    exact .inl ⟨true, _, rfl, rfl, h.enter ⟨_, hagree.records ⟨f, rfl, hf⟩, hentered⟩
      (Nat.le_of_eq hsum) hfair⟩

end Audits

/-! ## Audited rules -/

namespace Rule

/-- What a rule brings of the user's making, a step or a handler, is quiet, and a limit with the
number is the one that is kept account of. -/
def Minds (id : Nat) (most : Option Nat) : Rule → Prop
  | .custom step => step.Quiet id
  | .collect _ handler | .capture _ _ _ _ handler => handler.Quiet id
  | .limit own bound => own = id → bound = most
  | _ => True

variable {rules : List Rule}

theorem audits_runAll (h : ∀ r ∈ rules, Audits id most (r.audit id) r.run) :
    Audits id most (auditAll id rules) (runAll rules) := by
  induction rules with
  | nil =>
    rw [auditAll, runAll]
    exact .pure true
  | cons rule rules ih =>
    obtain ⟨hrule, hrules⟩ := List.forall_mem_cons.mp h
    rw [auditAll, runAll]
    exact hrule.bind fun matched => .ite (ih hrules) (.pure false) matched

theorem audits_runAny (h : ∀ r ∈ rules, Audits id most (r.audit id) r.run) (owner : Owner) :
    Audits id most (auditAny id owner rules) (runAny owner rules) := by
  induction rules with
  | nil =>
    rw [auditAny, runAny]
    exact .pure false
  | cons rule rules ih =>
    obtain ⟨hrule, hrules⟩ := List.forall_mem_cons.mp h
    rw [auditAny, runAny]
    exact (hrule.attempt owner).bind fun matched => .ite (.pure true) (ih hrules) matched

theorem quiet_applyAll {handler : Handler} (hh : handler.Quiet id)
    (writes : List (String × Value)) : Step.Quiet id (modify (handler.applyAll writes)) :=
  .modify fun st => hh.applyAll writes st

/-- A tree of rules, in which the limit may stand in any places, does the same to the state when it
is audited, and the account stays right. -/
theorem Each.audits (hmost : ∀ bound ∈ most, bound < 2 ^ 64) {rule : Rule}
    (h : rule.Each (Minds id most)) : Audits id most (rule.audit id) rule.run := by
  induction h with
  | @intro rule root _ ih =>
    cases rule with
    | skip n =>
      simp only [audit]
      exact .lift (quiet_skip n)
    | check p =>
      simp only [audit, run]
      exact .lift (.of_acts fun c => ⟨_, c, acts_onNext p, rfl⟩)
    | isIn words fold =>
      simp only [audit, run]
      exact .lift (.of_acts fun c => ⟨_, c, acts_onNext _, rfl⟩)
    | isEmpty =>
      simp only [audit, run]
      exact .lift (.of_acts fun c => ⟨_, c, acts_onNext _, rfl⟩)
    | not own rule =>
      rw [audit, run]
      exact (Audits.save _).bind fun handle => (ih rule List.mem_cons_self).bind fun matched =>
        (Audits.restore handle).bind fun _ => .pure !matched
    | replace f =>
      simp only [audit, run]
      exact .lift (quiet_replaceNext f)
    | removePrefix prefixes fold =>
      simp only [audit, run]
      exact .lift (quiet_replaceNext _)
    | all own rules =>
      rw [audit, run]
      exact (audits_runAll ih).attempt _
    | any own rules =>
      rw [audit, run]
      exact audits_runAny ih _
    | limit own bound =>
      rw [audit, run]
      split
      · rename_i hown
        obtain rfl := root hown
        subst hown
        exact .trial hmost
      · rename_i hown
        exact .lift (quiet_limitStep hown bound)
    | collect collector handler =>
      simp only [audit, run]
      exact .lift (quiet_collectStep collector root)
    | capture own dests rule format handler =>
      rw [audit, run]
      refine (Audits.save _).bind fun handle => (ih rule List.mem_cons_self).bind fun matched =>
        .ite (.get fun l => (Audits.dismiss handle).bind fun _ => ?_)
          ((Audits.restore handle).bind fun _ => .pure false) matched
      have hlift : Audits id most _ _ := .lift (quiet_applyAll root
        (RawFormat.writes dests format (l.state.consumedTokens handle)))
      have hwrites := hlift.bind fun _ => .pure true
      have hrecord : (modify (handler.applyAll (RawFormat.writes dests format
          (l.state.consumedTokens handle))) >>= fun _ => pure true : Step Bool) = _ :=
        funext fun st => Handler.record_apply.symm
      rwa [hrecord] at hwrites
    | custom step =>
      simp only [audit, run]
      exact .lift root

end Rule

/-! ## What callers do -/

/-- The act runs no other limit with the number, and touches its count in no other way. -/
def Act.Minds (id : Nat) (most : Option Nat) : Act → Prop
  | .run rule => rule.Each (Rule.Minds id most)
  | .edit e => e.Spares id
  | _ => True

/-- Whether it fails or not, an audited step leaves the state that the step leaves. -/
theorem Audits.leaves {α : Type} {x : EStateM Error Ledger α} {y : Step α}
    (h : Audits id most x y) {l : Ledger} (hl : l.Balanced id most) :
    (Step.leaves x l).state = Step.leaves y l.state ∧ (Step.leaves x l).Balanced id most := by
  rw [Step.leaves, Step.leaves]
  obtain ⟨a, l', hx, hy, h'⟩ | ⟨e, l', hx, hy, h'⟩ := h l hl
  · rw [hx, hy]
    exact ⟨rfl, h'⟩
  · rw [hx, hy]
    exact ⟨rfl, h'⟩

/-- One act does the same to the state when it is audited, and the account stays right. -/
theorem Act.onLedger_eq (hmost : ∀ bound ∈ most, bound < 2 ^ 64) {a : Act}
    (ha : a.Minds id most) {l : Ledger} (hl : l.Balanced id most) :
    (a.onLedger id l).state = a.onState l.state ∧ (a.onLedger id l).Balanced id most := by
  cases a with
  | run rule => exact (Rule.Each.audits hmost ha).leaves hl
  | edit e => exact ⟨rfl, hl.of_keepsCount (e.keepsCount ha l.state)⟩
  | save owner => exact (Audits.save owner).leaves hl
  | dismiss handle => exact (Audits.dismiss handle).leaves hl
  | restore handle => exact (Audits.restore handle).leaves hl

namespace Ledger

theorem balanced_start (id : Nat) (most : Option Nat) (tokens : List String)
    (attributes : Option Namespace) : (start tokens attributes).Balanced id most :=
  ⟨⟨.start tokens attributes, ⟨rfl, .nil _⟩, .cons rfl .nil⟩, Nat.le_refl 0,
    fun _ _ ht => absurd ht List.not_mem_nil⟩

/-- So does a row of acts. -/
theorem foldl_onLedger (hmost : ∀ bound ∈ most, bound < 2 ^ 64) {acts : List Act}
    (hacts : ∀ a ∈ acts, a.Minds id most) {l : Ledger} (hl : l.Balanced id most) :
    (acts.foldl (Act.onLedger id) l).state = acts.foldl Act.onState l.state ∧
      (acts.foldl (Act.onLedger id) l).Balanced id most := by
  induction acts generalizing l with
  | nil => exact ⟨rfl, hl⟩
  | cons a acts ih =>
    obtain ⟨ha, hrest⟩ := List.forall_mem_cons.mp hacts
    obtain ⟨hstate, hbalanced⟩ := Act.onLedger_eq hmost ha hl
    rw [List.foldl_cons, List.foldl_cons, ← hstate]
    exact ih hrest hbalanced

end Ledger

theorem Nargs.most_lt (nargs : Nargs) : ∀ bound ∈ nargs.bounds.most, bound < 2 ^ 64 := by
  intro bound hbound
  cases nargs with
  | exactly n =>
    obtain rfl := Option.some.inj hbound
    exact n.toNat_lt
  | optional =>
    obtain rfl := Option.some.inj hbound
    decide
  | zeroOrMore | oneOrMore => cases hbound

namespace Ledger

/-- Whatever a caller does with a state from the start of a parse on, the account is one of what
happens, and says of each of fewer than 2^63 attempts of a limit that it matched just if fewer of
its matches stood than its bound, or if it has none. A bound of 2^63 and more admits no match. -/
theorem log_limiter (id : Nat) (nargs : Nargs) (tokens : List String)
    (attributes : Option Namespace) {acts : List Act}
    (hacts : ∀ a ∈ acts, a.Minds id nargs.bounds.most) :
    (acts.foldl (Act.onLedger id) (.start tokens attributes)).state =
        acts.foldl Act.onState (.start tokens attributes) ∧
      ((acts.foldl (Act.onLedger id) (.start tokens attributes)).log.length < 2 ^ 63 →
        ∀ t ∈ (acts.foldl (Act.onLedger id) (.start tokens attributes)).log,
          t.matched = Rule.admits nargs.bounds.most t.standing) := by
  obtain ⟨hstate, hbalanced⟩ := foldl_onLedger nargs.most_lt hacts
    (balanced_start id nargs.bounds.most tokens attributes)
  exact ⟨hstate, hbalanced.fair⟩

/-- A limit of two. -/
def twice : Rule := .limiter 1 (.exactly 2)

/-- A value is taken and written. -/
def taking : Rule := .setAttribute 6 "x" none {} none

/-- The limit matches in a sequence that takes a value and fails afterwards, then under a savepoint
of the caller, in an alternative that fails and in a lookahead. All of that is taken back, and then
the limit is tried three times. -/
def tries : List Act :=
  [.run (.all 2 [twice, taking, .skip 1]), .save .driver, .run twice,
    .run (.any 3 [.all 4 [twice, .isEmpty], .not 5 twice]), .restore ⟨0⟩,
    .run twice, .run twice, .run twice]

theorem log_limiter_tries :
    (tries.foldl (Act.onLedger 1) (.start ["a"] none)).log =
        [⟨2, false⟩, ⟨1, true⟩, ⟨0, true⟩, ⟨1, true⟩, ⟨1, true⟩, ⟨0, true⟩, ⟨0, true⟩] ∧
      ∀ t ∈ (tries.foldl (Act.onLedger 1) (.start ["a"] none)).log,
        t.matched = decide (t.standing < 2) := by
  have hlog : (tries.foldl (Act.onLedger 1) (.start ["a"] none)).log =
      [⟨2, false⟩, ⟨1, true⟩, ⟨0, true⟩, ⟨1, true⟩, ⟨1, true⟩, ⟨0, true⟩, ⟨0, true⟩] := by
    decide +kernel
  have hfirst : Handler.setFirst.BuiltIn := trivial
  have htaking : taking.Each (Rule.Minds 1 (Nargs.exactly 2).bounds.most) :=
    .intro (Handler.quiet_of_builtIn hfirst 1) nofun
  have hacts : ∀ a ∈ tries, a.Minds 1 (Nargs.exactly 2).bounds.most := by
    simp [tries, htaking, Act.Minds, twice, Rule.limiter, Rule.Minds]
  refine ⟨hlog, (log_limiter 1 (.exactly 2) ["a"] none hacts).2 ?_⟩
  rw [hlog]
  decide

/-- A limit of 2^63 does not match once. -/
theorem not_forall_log_limiter :
    ¬ ∀ (id : Nat) (nargs : Nargs) (tokens : List String) (acts : List Act),
      (∀ a ∈ acts, a.Minds id nargs.bounds.most) →
      (acts.foldl (Act.onLedger id) (.start tokens none)).log.length < 2 ^ 63 →
      ∀ t ∈ (acts.foldl (Act.onLedger id) (.start tokens none)).log,
        t.matched = nargs.bounds.most.all (t.standing < ·) := by
  intro h
  have hlog : ([Act.run (.limiter 1 (.exactly (2 ^ 63)))].foldl (Act.onLedger 1)
      (.start ["a"] none)).log = [⟨0, false⟩] := by decide +kernel
  have hacts : ∀ a ∈ [Act.run (.limiter 1 (.exactly (2 ^ 63)))],
      a.Minds 1 (Nargs.exactly (2 ^ 63)).bounds.most := by
    simp [Act.Minds, Rule.limiter, Rule.Minds]
  have hmatched := h 1 (.exactly (2 ^ 63)) ["a"] _ hacts (by rw [hlog]; decide) ⟨0, false⟩
    (by rw [hlog]; exact List.mem_singleton_self _)
  exact absurd hmatched (by decide +kernel)

end Ledger

end TokenGrammar
