import TokenGrammar.Proofs.Recording

/-!
# Savepoints as full copies

A savepoint records what is about to change for the first time. It could as well be a copy of the
tokens, the attributes and the kept values, made when it is opened: no caller sees a difference.

* `Copying`: the state of a machine whose savepoints are full copies, with the same checks of owners
  and depths (`Copying.save`, `Copying.dismiss`, `Copying.restore`, `Copying.attempt`);
* `Script`: a caller of either machine. It may choose each operation by what it has seen so far, the
  errors included, and go on after an error;
* `Tracks`: each open savepoint puts back its copy, both from the current content and from every
  younger copy. Recordings, opening and releasing keep this up;
* `Script.log_eq`: a script gets the same answers from both machines and sees the same content and
  the same depth after every operation, inside an attempt and outside.
-/

namespace TokenGrammar

/-! ## Operations -/

/-- A change of the content of a state. -/
inductive Edit where
  | next (n : Nat)
  | setToken (index : UInt64) (token : String)
  /-- The five ways to write an attribute are those of the built-in handlers. -/
  | write (how : { handler : Handler // handler.BuiltIn }) (name : String) (value : Value)
  | store (owner : Owner) (key : String) (value : Value)

/-- An operation of a state, attempts apart. Handles are the caller's, and may be stale. -/
inductive Operation where
  | edit (e : Edit)
  | save (owner : Owner)
  | dismiss (handle : Handle)
  | restore (handle : Handle)

/-- What an operation gives back. -/
inductive Reply where
  | done
  | taken (tokens : Option (List String))
  | opened (handle : Handle)
  | tried (matched : Bool)

/-- Applies an edit to a state. One that fails leaves the state as it is. -/
def Edit.onState : Edit → State → Except Error Reply × State
  | .next n, st =>
    match st.next? n with
    | some (taken, rest) => (.ok (.taken (some taken)), rest)
    | none => (.ok (.taken none), st)
  | .setToken index token, st =>
    match st.setToken index token with
    | .ok rest => (.ok .done, rest)
    | .error e => (.error e, st)
  | .write how name value, st => (.ok .done, how.1.apply st name value)
  | .store owner key value, st => (.ok .done, st.store owner key value)

/-- Applies an edit to a content, with no savepoint in sight. -/
def Edit.onContent : Edit → Content → Except Error Reply × Content
  | .next n, c =>
    match c.tokens.take? n with
    | some (taken, rest) => (.ok (.taken (some taken)), { c with tokens := rest })
    | none => (.ok (.taken none), c)
  | .setToken index token, c =>
    match c.tokens.position index with
    | .ok position => (.ok .done, { c with tokens := c.tokens.replace position token })
    | .error e => (.error e, c)
  | .write how name value, c =>
    (.ok .done, { c with attributes := how.1.write name value c.attributes })
  | .store owner key value, c => (.ok .done, { c with scratch := c.scratch.set owner key value })

/-! ## A machine with full copies -/

/-- A content with a copy for every open savepoint. The youngest comes first. -/
structure Copying where
  content : Content
  copies : List (Owner × Content)

namespace Copying

/-- The state at the start of a parse. -/
def start (tokens : List String) (attributes : Option Namespace) : Copying :=
  ⟨⟨.ofTokens tokens, attributes.getD .empty, .empty⟩, []⟩

/-- Copies the content. An owner has at most one copy at a time. -/
def save (owner : Owner) : EStateM Error Copying Handle := do
  let s ← get
  if s.copies.any (·.1 = owner) then
    throw (.grammar (.duplicateSavepoint owner))
  set { s with copies := (owner, s.content) :: s.copies }
  return ⟨s.copies.length⟩

/-- Takes the copy with the handle off the stack, where it must be the youngest. -/
def pop (handle : Handle) : EStateM Error Copying Content := do
  let s ← get
  match s.copies with
  | copy :: rest =>
    if handle.depth = rest.length then
      set { s with copies := rest }
      return copy.2
    else throw (.savepointOrder rest.length handle.depth)
  | [] => throw (.savepointOrder 0 handle.depth)

/-- Drops a copy. -/
def dismiss (handle : Handle) : EStateM Error Copying Unit := do
  let _ ← pop handle

/-- Puts a copy back. -/
def restore (handle : Handle) : EStateM Error Copying Unit := do
  let copy ← pop handle
  modify ({ · with content := copy })

/-- Runs a step under a copy, which is dropped if the step matches and put back otherwise. -/
def attempt (owner : Owner) (step : EStateM Error Copying Bool) : EStateM Error Copying Bool := do
  let handle ← save owner
  if ← step then
    dismiss handle
    return true
  else
    restore handle
    return false

theorem save_eq (owner : Owner) (s : Copying) :
    save owner s =
      if s.copies.any (·.1 = owner) then .error (.grammar (.duplicateSavepoint owner)) s
      else .ok ⟨s.copies.length⟩ { s with copies := (owner, s.content) :: s.copies } := by
  rw [save, Step.get_bind]
  split <;> rfl

theorem pop_eq (handle : Handle) (s : Copying) :
    pop handle s =
      match s.copies with
      | [] => .error (.savepointOrder 0 handle.depth) s
      | copy :: rest =>
        if handle.depth = rest.length then .ok copy.2 { s with copies := rest }
        else .error (.savepointOrder rest.length handle.depth) s := by
  rw [pop, Step.get_bind]
  cases s.copies with
  | nil => rfl
  | cons copy rest =>
    simp only
    split <;> rfl

theorem dismiss_eq (handle : Handle) (s : Copying) :
    dismiss handle s =
      match pop handle s with
      | .ok _ s' => .ok () s'
      | .error e s' => .error e s' := by
  rw [dismiss, Step.bind_apply]
  cases pop handle s <;> rfl

theorem restore_eq (handle : Handle) (s : Copying) :
    restore handle s =
      match pop handle s with
      | .ok copy s' => .ok () { s' with content := copy }
      | .error e s' => .error e s' := by
  rw [restore, Step.bind_apply]
  cases pop handle s <;> rfl

end Copying

/-! ## Callers -/

/-- What a caller sees of a state. -/
structure Sight where
  content : Content
  depth : Nat

/-- A machine that offers the operations of a state. -/
structure Machine (σ : Type) where
  act : Operation → EStateM Error σ Reply
  attempt : Owner → EStateM Error σ Bool → EStateM Error σ Bool
  sight : σ → Sight

/-- The machine of a parse. -/
def recording : Machine State where
  act
    | .edit e => do
      let (reply, st) := e.onState (← get)
      MonadState.set st
      MonadExcept.ofExcept reply
    | .save owner => .opened <$> State.save owner
    | .dismiss handle => (fun _ => .done) <$> State.dismiss handle
    | .restore handle => (fun _ => .done) <$> State.restore handle
  attempt := State.attempt
  sight st := ⟨st.content, st.depth⟩

/-- The machine with full copies. -/
def copying : Machine Copying where
  act
    | .edit e => do
      let s ← get
      let (reply, content) := e.onContent s.content
      set { s with content }
      MonadExcept.ofExcept reply
    | .save owner => .opened <$> Copying.save owner
    | .dismiss handle => (fun _ => .done) <$> Copying.dismiss handle
    | .restore handle => (fun _ => .done) <$> Copying.restore handle
  attempt := Copying.attempt
  sight s := ⟨s.content, s.copies.length⟩

/-- What a caller learns from an operation. -/
abbrev Answer := Except Error Reply × Sight

/-- A caller: the operations that it does, each depending on the answers before it, and the verdict
that it gives to an attempt around it. A fixed sequence of operations ignores the answers. -/
inductive Script where
  | stop (verdict : Except Error Bool)
  | act (op : Operation) (rest : Answer → Script)
  | attempt (owner : Owner) (body : Script) (rest : Answer → Script)

namespace Machine

variable {σ : Type}

/-- The answer to an operation, and the state after it. The state counts after an error, too. -/
def answer (m : Machine σ) (x : EStateM Error σ Reply) (s : σ) : Answer × σ :=
  match x s with
  | .ok reply s' => ((.ok reply, m.sight s'), s')
  | .error e s' => ((.error e, m.sight s'), s')

end Machine

namespace Script

variable {σ : Type}

/-- Runs a script as the step of an attempt. -/
def run (m : Machine σ) : Script → EStateM Error σ Bool
  | .stop verdict => fun s =>
    match verdict with
    | .ok matched => .ok matched s
    | .error e => .error e s
  | .act op rest => fun s =>
    let seen := m.answer (m.act op) s
    (rest seen.1).run m seen.2
  | .attempt owner body rest => fun s =>
    let seen := m.answer (.tried <$> m.attempt owner (body.run m)) s
    (rest seen.1).run m seen.2

/-- The answers to all operations of a script, those inside an attempt before that to the
attempt. -/
def log (m : Machine σ) : Script → σ → List Answer
  | .stop _, _ => []
  | .act op rest, s =>
    let seen := m.answer (m.act op) s
    seen.1 :: (rest seen.1).log m seen.2
  | .attempt owner body rest, s =>
    let inside :=
      match m.act (.save owner) s with
      | .ok _ s' => body.log m s'
      | .error _ _ => []
    let seen := m.answer (.tried <$> m.attempt owner (body.run m)) s
    inside ++ seen.1 :: (rest seen.1).log m seen.2

end Script

/-! ## Edits are recorded -/

namespace Edit

/-- An edit is recorded, answers the same with savepoints and without, and changes the content
alike. -/
theorem onState_eq (e : Edit) (st : State) :
    State.Records st (e.onState st).2 ∧ (e.onState st).1 = (e.onContent st.content).1 ∧
      (e.onState st).2.content = (e.onContent st.content).2 := by
  cases e with
  | next n =>
    have hcontent : st.content.tokens = st.tokens := rfl
    cases h : st.tokens.take? n with
    | none =>
      simp only [onState, onContent, State.next?, hcontent, h]
      exact ⟨.refl st, rfl, rfl⟩
    | some taken =>
      simp only [onState, onContent, State.next?, hcontent, h]
      exact ⟨⟨_, rfl, Recording.take (c := st.content) h⟩, rfl, rfl⟩
  | setToken index token =>
    have hcontent : st.content.tokens = st.tokens := rfl
    cases h : st.tokens.position index with
    | error e =>
      simp only [onState, onContent, State.setToken, hcontent, h]
      exact ⟨.refl st, rfl, rfl⟩
    | ok position =>
      simp only [onState, onContent, State.setToken, hcontent, h]
      obtain ⟨hr, hc⟩ := State.Records.of_recorded (.respell st.content position token)
      exact ⟨hr, rfl, hc⟩
  | write how name value =>
    obtain ⟨hr, hc⟩ := State.Records.of_recorded (.apply how.2 st.content name value)
    exact ⟨hr, rfl, hc⟩
  | store owner key value =>
    obtain ⟨hr, hc⟩ := State.Records.of_recorded (.store st.content owner key value)
    exact ⟨hr, rfl, hc⟩

/-- An edit consumes tokens, replaces one, or leaves them as they are. -/
theorem tokens_onContent (e : Edit) (c : Content) :
    (e.onContent c).2.tokens = c.tokens ∨
      (∃ n taken, c.tokens.take? n = some (taken, (e.onContent c).2.tokens)) ∨
      ∃ position token, (e.onContent c).2.tokens = c.tokens.replace position token := by
  cases e with
  | next n =>
    simp only [onContent]
    cases h : c.tokens.take? n with
    | none => exact .inl rfl
    | some taken => exact .inr (.inl ⟨n, taken.1, h⟩)
  | setToken index token =>
    simp only [onContent]
    cases c.tokens.position index with
    | error e => exact .inl rfl
    | ok position => exact .inr (.inr ⟨position, token, rfl⟩)
  | write how name value => exact .inl rfl
  | store owner key value => exact .inl rfl

/-- An edit answers after its change. -/
theorem act_recording (e : Edit) (st : State) : recording.act (.edit e) st =
    (MonadExcept.ofExcept (e.onState st).1 : Step Reply) (e.onState st).2 := rfl

theorem act_copying (e : Edit) (s : Copying) : copying.act (.edit e) s =
    (MonadExcept.ofExcept (e.onContent s.content).1 : EStateM Error Copying Reply)
      { s with content := (e.onContent s.content).2 } := rfl

end Edit

/-! ## What savepoints and copies have in common -/

/-- Each savepoint puts back its copy, from the contents that were seen and from every younger
copy. -/
inductive Tracks : List Content → List Savepoint → List (Owner × Content) → Prop where
  | nil (seen : List Content) : Tracks seen [] []
  | cons {seen : List Content} {sp : Savepoint} {sps : List Savepoint} {copy : Content}
      {copies : List (Owner × Content)} (back : ∀ c ∈ seen, c.rollBack sp = copy)
      (rest : Tracks (copy :: seen) sps copies) :
      Tracks seen (sp :: sps) ((sp.owner, copy) :: copies)

namespace Tracks

variable {seen more : List Content} {sps : List Savepoint} {copies : List (Owner × Content)}

theorem mono (h : Tracks seen sps copies) (hsub : more ⊆ seen) : Tracks more sps copies := by
  induction h generalizing more with
  | nil seen => exact .nil more
  | cons back _ ih => exact .cons (fun c hc => back c (hsub hc)) (ih (List.cons_subset_cons _ hsub))

theorem owners (h : Tracks seen sps copies) : sps.map (·.owner) = copies.map (·.1) := by
  induction h with
  | nil => rfl
  | cons _ _ ih => rw [List.map_cons, List.map_cons, ih]

theorem length (h : Tracks seen sps copies) : sps.length = copies.length := by
  simpa using congrArg List.length h.owners

/-- A change from a content that was seen leads to one that may be seen, too. -/
theorem record {f : Savepoint → Savepoint} {c d : Content} (h : Tracks seen sps copies)
    (hc : c ∈ seen) (hf : Recording f c d) : Tracks (d :: seen) (sps.map f) copies := by
  induction h with
  | nil => exact .nil _
  | @cons seen sp sps copy copies back rest ih =>
    have hsp : c.rollBack sp = copy := back c hc
    rw [List.map_cons, ← hf.owner sp]
    refine .cons (fun b hb => ?_) ?_
    · rcases List.mem_cons.mp hb with rfl | hb
      · exact (hf.now sp).trans hsp
      · exact (hf.past sp b ((back b hb).trans hsp.symm)).trans hsp
    · refine (ih (List.mem_cons_of_mem copy hc)).mono fun b hb => ?_
      simpa [or_left_comm] using hb

/-- A savepoint that knows nothing yet tracks a copy of the content. -/
theorem push {c : Content} (h : Tracks [c] sps copies) (owner : Owner) :
    Tracks [c] (.fresh owner :: sps) ((owner, c) :: copies) := by
  refine .cons (fun b hb => ?_) (h.mono (by simp))
  obtain rfl := List.mem_singleton.mp hb
  exact Content.rollBack_fresh b owner

end Tracks

/-- Both machines hold the same content, and each savepoint tracks its copy. -/
structure Agree (st : State) (s : Copying) : Prop where
  content : st.content = s.content
  tracks : Tracks [s.content] st.savepoints s.copies

namespace Agree

variable {st st' : State} {s : Copying}

theorem sight (h : Agree st s) : recording.sight st = copying.sight s := by
  show Sight.mk st.content st.savepoints.length = ⟨s.content, s.copies.length⟩
  rw [h.content, h.tracks.length]

theorem records (h : Agree st s) (hr : State.Records st st') :
    Agree st' { s with content := st'.content } := by
  obtain ⟨f, hf, rf⟩ := hr
  rw [h.content] at rf
  refine ⟨rfl, ?_⟩
  rw [hf]
  exact (h.tracks.record List.mem_cons_self rf).mono (by simp)

end Agree

/-- Two steps answer alike, and keep up the agreement of their states. -/
def Respects {α : Type} (x : Step α) (y : EStateM Error Copying α) : Prop :=
  ∀ st s, Agree st s →
    (∃ a st' s', x st = .ok a st' ∧ y s = .ok a s' ∧ Agree st' s') ∨
      ∃ e st' s', x st = .error e st' ∧ y s = .error e s' ∧ Agree st' s'

namespace Respects

variable {α β : Type}

theorem pure (a : α) : Respects (Pure.pure a) (Pure.pure a) :=
  fun st s h => .inl ⟨a, st, s, rfl, rfl, h⟩

theorem bind {x : Step α} {y : EStateM Error Copying α} {f : α → Step β}
    {g : α → EStateM Error Copying β} (hxy : Respects x y) (hfg : ∀ a, Respects (f a) (g a)) :
    Respects (x >>= f) (y >>= g) := by
  intro st s h
  show (∃ b st' s', EStateM.bind x f st = _ ∧ EStateM.bind y g s = _ ∧ _) ∨
    ∃ e st' s', EStateM.bind x f st = _ ∧ EStateM.bind y g s = _ ∧ _
  simp only [EStateM.bind]
  obtain ⟨a, st', s', hx, hy, h'⟩ | ⟨e, st', s', hx, hy, h'⟩ := hxy st s h
  · rw [hx, hy]
    exact hfg a st' s' h'
  · rw [hx, hy]
    exact .inr ⟨e, st', s', rfl, rfl, h'⟩

theorem map {x : Step α} {y : EStateM Error Copying α} (f : α → β) (hxy : Respects x y) :
    Respects (f <$> x) (f <$> y) :=
  hxy.bind fun a => .pure (f a)

theorem edit (e : Edit) : Respects (recording.act (.edit e)) (copying.act (.edit e)) := by
  intro st s h
  obtain ⟨hr, hreply, hcontent⟩ := e.onState_eq st
  rw [h.content] at hreply hcontent
  rw [e.act_recording, e.act_copying, hreply, ← hcontent]
  cases (e.onContent s.content).1 with
  | ok reply => exact .inl ⟨reply, _, _, rfl, rfl, h.records hr⟩
  | error failure => exact .inr ⟨failure, _, _, rfl, rfl, h.records hr⟩

theorem save (owner : Owner) : Respects (State.save owner) (Copying.save owner) := by
  intro st s h
  have howner : st.savepoints.any (·.owner = owner) = s.copies.any (·.1 = owner) := by
    have := congrArg (List.any · (· = owner)) h.tracks.owners
    simpa [List.any_map, Function.comp_def] using this
  have hdepth : st.depth = s.copies.length := h.tracks.length
  rw [State.save_eq, Copying.save_eq, howner]
  split
  · exact .inr ⟨_, _, _, rfl, rfl, h⟩
  · refine .inl ⟨⟨st.depth⟩, st.opened owner, { s with copies := (owner, s.content) :: s.copies },
      rfl, by rw [hdepth], h.content, h.tracks.push owner⟩

/-- Both pop the youngest, and what it puts back is the copy. -/
theorem pop (handle : Handle) {st : State} {s : Copying} (h : Agree st s) :
    (∃ sp st' copy s', State.pop handle st = .ok sp st' ∧ Copying.pop handle s = .ok copy s' ∧
      Agree st' s' ∧ Agree (st'.rollBack sp) { s' with content := copy }) ∨
      ∃ e, State.pop handle st = .error e st ∧ Copying.pop handle s = .error e s := by
  obtain ⟨hc, ht⟩ := h
  rw [State.pop_eq, Copying.pop_eq]
  generalize st.savepoints = sps at ht
  generalize s.copies = copies at ht
  cases ht with
  | nil => exact .inr ⟨_, rfl, rfl⟩
  | @cons _ sp sps copy copies back rest =>
    simp only [rest.length]
    split
    · refine .inl ⟨sp, _, copy, _, rfl, rfl, ⟨hc, rest.mono (by simp)⟩, ?_, rest.mono (by simp)⟩
      rw [State.rollBack_eq, Content.content_under, Content.content_under, hc]
      exact back s.content List.mem_cons_self
    · exact .inr ⟨_, rfl, rfl⟩

theorem dismiss (handle : Handle) : Respects (State.dismiss handle) (Copying.dismiss handle) := by
  intro st s h
  rw [State.dismiss_eq, Copying.dismiss_eq]
  obtain ⟨sp, st', copy, s', hp, hq, h', -⟩ | ⟨e, hp, hq⟩ := pop handle h
  · rw [hp, hq]
    exact .inl ⟨(), st', s', rfl, rfl, h'⟩
  · rw [hp, hq]
    exact .inr ⟨e, st, s, rfl, rfl, h⟩

theorem restore (handle : Handle) : Respects (State.restore handle) (Copying.restore handle) := by
  intro st s h
  rw [State.restore_eq, Copying.restore_eq]
  obtain ⟨sp, st', copy, s', hp, hq, -, h'⟩ | ⟨e, hp, hq⟩ := pop handle h
  · rw [hp, hq]
    exact .inl ⟨(), st'.rollBack sp, { s' with content := copy }, rfl, rfl, h'⟩
  · rw [hp, hq]
    exact .inr ⟨e, st, s, rfl, rfl, h⟩

theorem act (op : Operation) : Respects (recording.act op) (copying.act op) := by
  cases op with
  | edit e => exact edit e
  | save owner => exact (save owner).map _
  | dismiss handle => exact (dismiss handle).map _
  | restore handle => exact (restore handle).map _

theorem attempt (owner : Owner) {x : Step Bool} {y : EStateM Error Copying Bool}
    (hxy : Respects x y) : Respects (recording.attempt owner x) (copying.attempt owner y) := by
  refine (save owner).bind fun handle => hxy.bind fun matched => ?_
  cases matched with
  | true => exact (dismiss handle).bind fun _ => .pure true
  | false => exact (restore handle).bind fun _ => .pure false

/-- Steps that answer alike answer alike to a caller, who sees the same state. -/
theorem answer {x : Step Reply} {y : EStateM Error Copying Reply} (hxy : Respects x y) {st : State}
    {s : Copying} (h : Agree st s) :
    (recording.answer x st).1 = (copying.answer y s).1 ∧
      Agree (recording.answer x st).2 (copying.answer y s).2 := by
  rw [Machine.answer, Machine.answer]
  obtain ⟨a, st', s', hx, hy, h'⟩ | ⟨e, st', s', hx, hy, h'⟩ := hxy st s h
  · rw [hx, hy]
    exact ⟨Prod.ext rfl h'.sight, h'⟩
  · rw [hx, hy]
    exact ⟨Prod.ext rfl h'.sight, h'⟩

end Respects

namespace Script

/-- A script is a step that both machines run alike. -/
theorem respects (script : Script) : Respects (script.run recording) (script.run copying) := by
  induction script with
  | stop verdict =>
    intro st s h
    cases verdict with
    | ok matched => exact .inl ⟨matched, st, s, rfl, rfl, h⟩
    | error e => exact .inr ⟨e, st, s, rfl, rfl, h⟩
  | act op rest ih =>
    intro st s h
    obtain ⟨hanswer, h'⟩ := (Respects.act op).answer h
    simp only [run, hanswer]
    exact ih _ _ _ h'
  | attempt owner body rest hbody ih =>
    intro st s h
    obtain ⟨hanswer, h'⟩ := ((Respects.attempt owner hbody).map .tried).answer h
    simp only [run, hanswer]
    exact ih _ _ _ h'

theorem log_eq_of_agree (script : Script) {st : State} {s : Copying} (h : Agree st s) :
    script.log recording st = script.log copying s := by
  induction script generalizing st s with
  | stop verdict => rfl
  | act op rest ih =>
    obtain ⟨hanswer, h'⟩ := (Respects.act op).answer h
    simp only [log, hanswer, ih _ h']
  | attempt owner body rest hbody ih =>
    obtain ⟨hanswer, h'⟩ := ((Respects.attempt owner body.respects).map .tried).answer h
    simp only [log, hanswer, ih _ h']
    congr 1
    obtain ⟨a, st', s', hx, hy, hin⟩ | ⟨e, st', s', hx, hy, -⟩ := Respects.act (.save owner) st s h
    · rw [hx, hy]
      exact hbody hin
    · rw [hx, hy]

/-- From the start of a parse on, no caller can tell recorded savepoints from full copies. -/
theorem log_eq (script : Script) (tokens : List String) (attributes : Option Namespace) :
    script.log recording (.start tokens attributes) =
      script.log copying (.start tokens attributes) :=
  script.log_eq_of_agree ⟨rfl, .nil _⟩

end Script

end TokenGrammar
