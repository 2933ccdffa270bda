import Mathlib.Data.List.Forall2
import TokenGrammar.Proofs.Dispatch
import TokenGrammar.Proofs.Effects
import TokenGrammar.Proofs.Validation

/-!
# Two runs side by side

Two parses that hold the same tokens and the same kept values all the time, and attributes that are
related. What a rule does depends on the attributes in so far only as it adds to them. So rules of
one shape stay side by side, even where the one writes another attribute than the other, or writes
where the other does not.

* `State.Like`: the states of two runs, with related attributes now and after every rollback;
* `Step.Twin`: steps that lead from such states to such states, and give the same or fail alike.
  `Step.Twin.bind`, `Step.Twin.attempt` and their like: twins are made of twins;
* `Handler.Twins`: handlers that write related attributes. `Handler.Confined`: handlers that write
  their destination only, by what stands there;
* `Rule.Each.twin`: a rule is its own twin where its handlers are, by induction on the tree;
* `TokenParser.twin_consumeAll`, `TokenParser.twin_parse`: parsers whose rules are twins.
-/

namespace TokenGrammar

variable {N : Namespace → Namespace → Prop}

/-! ## States side by side -/

/-- A savepoint has recorded the attributes if one that is older than it has. -/
def Savepoint.Coherent (sps : List Savepoint) : Prop :=
  sps.Pairwise fun younger older => older.attributes = none → younger.attributes = none

/-- Two savepoints of one owner that put back the same tokens and kept values, and related
attributes in place of the current ones. -/
structure Savepoint.Like (N : Namespace → Namespace → Prop) (ns ns' : Namespace)
    (sp sp' : Savepoint) : Prop where
  owner : sp'.owner = sp.owner
  tokens : sp'.tokens = sp.tokens
  attributes : N (sp.attributes.getD ns) (sp'.attributes.getD ns')
  scratch : sp'.scratch = sp.scratch

/-- Two states with the same tokens and kept values, and related attributes. -/
structure State.Like (N : Namespace → Namespace → Prop) (st st' : State) : Prop where
  tokens : st'.tokens = st.tokens
  attributes : N st.attributes st'.attributes
  scratch : st'.scratch = st.scratch
  savepoints : List.Forall₂ (Savepoint.Like N st.attributes st'.attributes) st.savepoints
    st'.savepoints
  coherent : Savepoint.Coherent st.savepoints
  coherent' : Savepoint.Coherent st'.savepoints

namespace Savepoint.Coherent

variable {sps : List Savepoint} {f : Savepoint → Savepoint}

/-- A change that records no attributes, or in all savepoints. -/
theorem map (h : Coherent sps)
    (hf : (∀ sp, (f sp).attributes = sp.attributes) ∨ ∀ sp, (f sp).attributes ≠ none) :
    Coherent (sps.map f) := by
  refine List.pairwise_map.mpr (List.Pairwise.imp (fun {younger older} hrel => ?_) h)
  obtain hsame | hall := hf
  · rw [hsame, hsame]
    exact hrel
  · exact fun hnone => absurd hnone (hall older)

/-- What a savepoint puts back is what it would have put back before a younger one did. -/
theorem getD_getD {sp : Savepoint} (h : Coherent (sp :: sps)) (ns : Namespace) :
    ∀ older ∈ sps, older.attributes.getD (sp.attributes.getD ns) = older.attributes.getD ns := by
  intro older holder
  cases hattributes : older.attributes with
  | some _ => rfl
  | none =>
    rw [(List.pairwise_cons.mp h).1 older holder hattributes]
    rfl

end Savepoint.Coherent

/-- Savepoints stay side by side where they put back the same in place of other attributes. -/
theorem Savepoint.Like.of_getD {ns ns' ms ms' : Namespace} {sps sps' : List Savepoint}
    (h : List.Forall₂ (Savepoint.Like N ns ns') sps sps')
    (hback : ∀ sp ∈ sps, sp.attributes.getD ms = sp.attributes.getD ns)
    (hback' : ∀ sp ∈ sps', sp.attributes.getD ms' = sp.attributes.getD ns') :
    List.Forall₂ (Savepoint.Like N ms ms') sps sps' := by
  induction h with
  | nil => exact .nil
  | cons hsp _ ih =>
    obtain ⟨hfirst, hrest⟩ := List.forall_mem_cons.mp hback
    obtain ⟨hfirst', hrest'⟩ := List.forall_mem_cons.mp hback'
    refine .cons ⟨hsp.owner, hsp.tokens, ?_, hsp.scratch⟩ (ih hrest hrest')
    rw [hfirst, hfirst']
    exact hsp.attributes

namespace State.Like

variable {st st' : State}

/-- What savepoints side by side have in common is the same in both stacks. -/
theorem map_savepoints_eq {α : Type} (h : st.Like N st') {g : Savepoint → α}
    (hg : ∀ sp sp', Savepoint.Like N st.attributes st'.attributes sp sp' → g sp' = g sp) :
    st'.savepoints.map g = st.savepoints.map g := by
  have hsps := h.savepoints
  generalize st.savepoints = sps at hsps ⊢
  generalize st'.savepoints = sps' at hsps ⊢
  induction hsps with
  | nil => rfl
  | cons hsp _ ih => rw [List.map_cons, List.map_cons, ih, hg _ _ hsp]

/-- A change of the savepoints that concerns neither attributes nor owners. -/
theorem mapSavepoints (h : st.Like N st') {f f' : Savepoint → Savepoint}
    (hf : ∀ sp, (f sp).owner = sp.owner ∧ (f sp).attributes = sp.attributes)
    (hf' : ∀ sp, (f' sp).owner = sp.owner ∧ (f' sp).attributes = sp.attributes)
    (hsame : ∀ sp sp', sp'.tokens = sp.tokens → sp'.scratch = sp.scratch →
      (f' sp').tokens = (f sp).tokens ∧ (f' sp').scratch = (f sp).scratch) :
    (st.mapSavepoints f).Like N (st'.mapSavepoints f') where
  tokens := h.tokens
  attributes := h.attributes
  scratch := h.scratch
  savepoints := by
    refine List.rel_map (fun sp sp' hsp => ?_) h.savepoints
    obtain ⟨htokens, hscratch⟩ := hsame sp sp' hsp.tokens hsp.scratch
    refine ⟨(hf' sp').1.trans (hsp.owner.trans (hf sp).1.symm), htokens, ?_, hscratch⟩
    rw [(hf sp).2, (hf' sp').2]
    exact hsp.attributes
  coherent := h.coherent.map (.inl fun sp => (hf sp).2)
  coherent' := h.coherent'.map (.inl fun sp => (hf' sp).2)

theorem captureTokens (h : st.Like N st') : st.captureTokens.Like N st'.captureTokens := by
  refine h.mapSavepoints (fun _ => ⟨rfl, rfl⟩) (fun _ => ⟨rfl, rfl⟩) fun sp sp' htokens hscratch =>
    ⟨?_, hscratch⟩
  rw [htokens, h.tokens]

theorem captureScratch (h : st.Like N st') : st.captureScratch.Like N st'.captureScratch := by
  refine h.mapSavepoints (fun _ => ⟨rfl, rfl⟩) (fun _ => ⟨rfl, rfl⟩) fun sp sp' htokens hscratch =>
    ⟨htokens, ?_⟩
  rw [hscratch, h.scratch]

/-- Other tokens and kept values, the same in both. -/
theorem withTokens (h : st.Like N st') (buffer : TokenBuffer) (scratch : Scratch) :
    State.Like N { st with tokens := buffer, scratch } { st' with tokens := buffer, scratch } :=
  ⟨rfl, h.attributes, rfl, h.savepoints, h.coherent, h.coherent'⟩

theorem next? (h : st.Like N st') (n : Nat) :
    (st.next? n = none ∧ st'.next? n = none) ∨
      ∃ taken rest rest', st.next? n = some (taken, rest) ∧ st'.next? n = some (taken, rest') ∧
        rest.Like N rest' := by
  rw [State.next?, State.next?, h.tokens]
  cases st.tokens.take? n with
  | none => exact .inl ⟨rfl, rfl⟩
  | some next =>
    obtain ⟨taken, buffer⟩ := next
    refine .inr ⟨taken, _, _, rfl, rfl, ?_⟩
    have hrest := h.captureTokens.withTokens buffer st.scratch
    exact ⟨rfl, hrest.attributes, h.scratch, hrest.savepoints, hrest.coherent, hrest.coherent'⟩

theorem respell (h : st.Like N st') (position : Nat) (token : String) :
    (st.respell position token).Like N (st'.respell position token) := by
  cases hat : st.tokens.at? position with
  | none => simpa only [State.respell, h.tokens, hat] using h
  | some current =>
    have hspelled : State.Like N
        (st.captureTokens.mapSavepoints (.spell position current))
        (st'.captureTokens.mapSavepoints (.spell position current)) :=
      h.captureTokens.mapSavepoints (fun _ => ⟨rfl, rfl⟩) (fun _ => ⟨rfl, rfl⟩)
        fun sp sp' htokens hscratch => ⟨congrArg (Option.map _) htokens, hscratch⟩
    have heq (s : State) (hs : s.tokens = st.tokens) : s.respell position token =
        { s.captureTokens.mapSavepoints (.spell position current) with
          tokens := st.tokens.replace position token } := by
      simp only [State.respell, State.captureTokens, State.tokens_mapSavepoints, hs, hat]
      rfl
    rw [heq st rfl, heq st' h.tokens]
    exact ⟨rfl, hspelled.attributes, hspelled.scratch, hspelled.savepoints, hspelled.coherent,
      hspelled.coherent'⟩

theorem store (h : st.Like N st') (owner : Owner) (key : String) (value : Value) :
    (st.store owner key value).Like N (st'.store owner key value) := by
  have hcaptured := h.captureScratch
  exact ⟨h.tokens, h.attributes, congrArg (Scratch.set · owner key value) h.scratch,
    hcaptured.savepoints, hcaptured.coherent, hcaptured.coherent'⟩

end State.Like

/-- States are side by side again when the youngest savepoints have put back what they hold. -/
theorem State.Like.rollBack {st st' : State} (h : st.Like N st') {sp sp' : Savepoint}
    (hsp : Savepoint.Like N st.attributes st'.attributes sp sp')
    (hcoherent : Savepoint.Coherent (sp :: st.savepoints))
    (hcoherent' : Savepoint.Coherent (sp' :: st'.savepoints)) :
    (st.rollBack sp).Like N (st'.rollBack sp') where
  tokens := by rw [State.rollBack, State.rollBack, hsp.tokens, h.tokens]
  attributes := hsp.attributes
  scratch := by rw [State.rollBack, State.rollBack, hsp.scratch, h.scratch]
  savepoints := Savepoint.Like.of_getD h.savepoints (hcoherent.getD_getD _) (hcoherent'.getD_getD _)
  coherent := h.coherent
  coherent' := h.coherent'

/-- Writes an attribute, or nothing. -/
def State.put (st : State) (name : String) (value? : Option Value) : State :=
  (value?.map (st.set name)).getD st

/-- The attributes with one of them written, or none. -/
def Namespace.put (ns : Namespace) (name : String) (value? : Option Value) : Namespace :=
  (value?.map (ns.set name)).getD ns

theorem Namespace.get?_put_of_ne (ns : Namespace) {name other : String} (value? : Option Value)
    (h : other ≠ name) : (ns.put name value?).get? other = ns.get? other := by
  cases value? with
  | none => rfl
  | some value => exact ns.get?_set_of_ne value h

/-- What was written may be taken back by every savepoint. -/
theorem State.put_eq (st : State) (name : String) (value? : Option Value) :
    ∃ f : Savepoint → Savepoint,
      st.put name value? = { st with
        savepoints := st.savepoints.map f
        attributes := st.attributes.put name value? } ∧
      ((∀ sp, (f sp).attributes = sp.attributes) ∨ ∀ sp, (f sp).attributes ≠ none) ∧
      ∀ sp, (f sp).owner = sp.owner ∧ (f sp).tokens = sp.tokens ∧ (f sp).scratch = sp.scratch ∧
        (f sp).attributes.getD (st.attributes.put name value?) =
          sp.attributes.getD st.attributes := by
  cases value? with
  | none =>
    refine ⟨id, ?_, .inl fun _ => rfl, fun _ => ⟨rfl, rfl, rfl, rfl⟩⟩
    rw [List.map_id]
    rfl
  | some value =>
    exact ⟨fun sp => { sp with attributes := some (sp.attributes.getD st.attributes) }, rfl,
      .inr fun _ => Option.some_ne_none _, fun _ => ⟨rfl, rfl, rfl, rfl⟩⟩

/-- Attributes may be written in both runs or in one of them, as long as they stay related. -/
theorem State.Like.put {st st' : State} (h : st.Like N st') {name name' : String}
    {value? value'? : Option Value}
    (hput : N (st.attributes.put name value?) (st'.attributes.put name' value'?)) :
    (st.put name value?).Like N (st'.put name' value'?) := by
  obtain ⟨f, heq, hcoherent, hf⟩ := st.put_eq name value?
  obtain ⟨f', heq', hcoherent', hf'⟩ := st'.put_eq name' value'?
  rw [heq, heq']
  refine ⟨h.tokens, hput, h.scratch, ?_, h.coherent.map hcoherent, h.coherent'.map hcoherent'⟩
  refine List.rel_map (fun sp sp' hsp => ?_) h.savepoints
  obtain ⟨howner, htokens, hscratch, hback⟩ := hf sp
  obtain ⟨howner', htokens', hscratch', hback'⟩ := hf' sp'
  refine ⟨?_, ?_, ?_, ?_⟩
  · rw [howner, howner', hsp.owner]
  · rw [htokens, htokens', hsp.tokens]
  · rw [hback, hback']
    exact hsp.attributes
  · rw [hscratch, hscratch', hsp.scratch]

/-! ## Steps side by side -/

/-- From states side by side two steps lead to such states, and both give the same or both fail with
the same error. -/
def Step.Twin {α : Type} (N : Namespace → Namespace → Prop) (x y : Step α) : Prop :=
  ∀ st st', st.Like N st' →
    (∃ a t t', x st = .ok a t ∧ y st' = .ok a t' ∧ t.Like N t') ∨
      ∃ e t t', x st = .error e t ∧ y st' = .error e t' ∧ t.Like N t'

namespace Step.Twin

variable {α β : Type} {x y : Step α}

theorem pure (a : α) : Step.Twin N (Pure.pure a) (Pure.pure a) :=
  fun st st' h => .inl ⟨a, st, st', rfl, rfl, h⟩

theorem throw (e : Error) : Step.Twin N (MonadExcept.throw e : Step α) (MonadExcept.throw e) :=
  fun st st' h => .inr ⟨e, st, st', rfl, rfl, h⟩

theorem bind {f g : α → Step β} (hxy : Step.Twin N x y) (hfg : ∀ a, Step.Twin N (f a) (g a)) :
    Step.Twin N (x >>= f) (y >>= g) := by
  intro st st' h
  simp only [Step.bind_apply]
  obtain ⟨a, t, t', hx, hy, ht⟩ | ⟨e, t, t', hx, hy, ht⟩ := hxy st st' h
  · rw [hx, hy]
    exact hfg a t t' ht
  · rw [hx, hy]
    exact .inr ⟨e, t, t', rfl, rfl, ht⟩

/-- Steps that look at the state are twins if what they do then are. -/
theorem get {f g : State → Step β}
    (hfg : ∀ st st', st.Like N st' → Step.Twin N (f st) (g st')) :
    Step.Twin N (MonadState.get >>= f) (MonadState.get >>= g) :=
  fun st st' h => hfg st st' h st st' h

theorem modify {f g : State → State} (hfg : ∀ st st', st.Like N st' → (f st).Like N (g st')) :
    Step.Twin N (modify f : Step Unit) (modify g) :=
  fun st st' h => .inl ⟨(), f st, g st', rfl, rfl, hfg st st' h⟩

/-- Steps that set a state, from a pair of states side by side. -/
theorem set {s s' : State} (h : s.Like N s') :
    Step.Twin N (MonadState.set s : Step Unit) (MonadState.set s') :=
  fun _ _ _ => .inl ⟨(), s, s', rfl, rfl, h⟩

theorem save (owner : Owner) : Step.Twin N (State.save owner) (State.save owner) := by
  intro st st' h
  have howner : st'.savepoints.any (·.owner = owner) = st.savepoints.any (·.owner = owner) := by
    have howners := h.map_savepoints_eq (g := (·.owner)) fun _ _ hsp => hsp.owner
    have := congrArg (List.any · (· = owner)) howners
    simpa [List.any_map, Function.comp_def] using this
  have hdepth : st'.depth = st.depth := h.savepoints.length_eq.symm
  rw [State.save_eq, State.save_eq, howner, hdepth]
  split
  · exact .inr ⟨_, st, st', rfl, rfl, h⟩
  · refine .inl ⟨_, _, _, rfl, rfl, h.tokens, h.attributes, h.scratch, ?_, ?_, ?_⟩
    · exact .cons ⟨rfl, rfl, h.attributes, rfl⟩ h.savepoints
    · exact List.pairwise_cons.mpr ⟨fun _ _ _ => rfl, h.coherent⟩
    · exact List.pairwise_cons.mpr ⟨fun _ _ _ => rfl, h.coherent'⟩

/-- Both runs take the youngest savepoint off. Then they are side by side, whether or not the
savepoints put back what they hold. -/
theorem pop (handle : Handle) {st st' : State} (h : st.Like N st') :
    (∃ sp sp' t t', State.pop handle st = .ok sp t ∧ State.pop handle st' = .ok sp' t' ∧
      t.Like N t' ∧ (t.rollBack sp).Like N (t'.rollBack sp')) ∨
      ∃ e, State.pop handle st = .error e st ∧ State.pop handle st' = .error e st' := by
  rw [State.pop_eq, State.pop_eq]
  have hsps := h.savepoints
  have hcoherent := h.coherent
  have hcoherent' := h.coherent'
  generalize st.savepoints = sps at hsps hcoherent ⊢
  generalize st'.savepoints = sps' at hsps hcoherent' ⊢
  cases hsps with
  | nil => exact .inr ⟨_, rfl, rfl⟩
  | @cons sp sp' rest rest' hsp hrest =>
    simp only [hrest.length_eq]
    split
    · have ht : State.Like N { st with savepoints := rest } { st' with savepoints := rest' } :=
        ⟨h.tokens, h.attributes, h.scratch, hrest, (List.pairwise_cons.mp hcoherent).2,
          (List.pairwise_cons.mp hcoherent').2⟩
      exact .inl ⟨sp, sp', _, _, rfl, rfl, ht, ht.rollBack hsp hcoherent hcoherent'⟩
    · exact .inr ⟨_, rfl, rfl⟩

theorem dismiss (handle : Handle) :
    Step.Twin N (State.dismiss handle) (State.dismiss handle) := by
  intro st st' h
  rw [State.dismiss_eq, State.dismiss_eq]
  obtain ⟨sp, sp', t, t', hpop, hpop', ht, -⟩ | ⟨e, hpop, hpop'⟩ := pop handle h
  · rw [hpop, hpop']
    exact .inl ⟨(), t, t', rfl, rfl, ht⟩
  · rw [hpop, hpop']
    exact .inr ⟨e, st, st', rfl, rfl, h⟩

theorem restore (handle : Handle) :
    Step.Twin N (State.restore handle) (State.restore handle) := by
  intro st st' h
  rw [State.restore_eq, State.restore_eq]
  obtain ⟨sp, sp', t, t', hpop, hpop', -, ht⟩ | ⟨e, hpop, hpop'⟩ := pop handle h
  · rw [hpop, hpop']
    exact .inl ⟨(), _, _, rfl, rfl, ht⟩
  · rw [hpop, hpop']
    exact .inr ⟨e, st, st', rfl, rfl, h⟩

/-- What is done when a step matches, and when it does not. -/
theorem ite {x' y' : Step β} {f g : Step β} (hthen : Step.Twin N x' y') (helse : Step.Twin N f g)
    (matched : Bool) :
    Step.Twin N (if matched then x' else f) (if matched then y' else g) := by
  cases matched with
  | true => exact hthen
  | false => exact helse

theorem attempt {x y : Step Bool} (h : Step.Twin N x y) (owner : Owner) :
    Step.Twin N (State.attempt owner x) (State.attempt owner y) :=
  (save owner).bind fun handle => h.bind fun matched =>
    .ite ((dismiss handle).bind fun _ => .pure true) ((restore handle).bind fun _ => .pure false)
      matched

theorem notStep {x y : Step Bool} (h : Step.Twin N x y) (id : Nat) :
    Step.Twin N (Rule.notStep id x) (Rule.notStep id y) :=
  (save (.rule id)).bind fun handle => h.bind fun matched => (restore handle).bind fun _ =>
    .pure (!matched)

end Step.Twin

/-! ## The tokens that were consumed -/

/-- Two runs side by side have consumed the same tokens since a savepoint was opened. -/
theorem State.Like.consumedTokens {st st' : State} (h : st.Like N st') (handle : Handle) :
    st'.consumedTokens handle = st.consumedTokens handle := by
  have hsnapshot : (st'.savepoints.reverse[handle.depth]? >>= (·.tokens)) =
      (st.savepoints.reverse[handle.depth]? >>= (·.tokens)) := by
    have htokens := h.map_savepoints_eq (g := (·.tokens)) fun _ _ hsp => hsp.tokens
    have := congrArg (fun snapshots => snapshots.reverse[handle.depth]?.bind id) htokens
    simpa [← List.map_reverse, Option.bind_map] using this
  simp only [State.consumedTokens, h.tokens, hsnapshot]

/-! ## Handlers side by side -/

namespace Handler

/-- From states side by side two handlers lead to such states, the one writing to the one
destination and the other to the other. -/
def Twins (N : Namespace → Namespace → Prop) (handler : Handler) (dest : String)
    (handler' : Handler) (dest' : String) : Prop :=
  ∀ st st' value, st.Like N st' →
    (handler.apply st dest value).Like N (handler'.apply st' dest' value)

/-- A handler that writes its destination or nothing, by what stands there and what it is given. -/
def Confined (handler : Handler) : Prop :=
  ∃ written? : Option Value → Value → Option Value, ∀ st dest value,
    handler.apply st dest value = st.put dest (written? (st.attribute? dest) value)

theorem confined_of_builtIn {handler : Handler} (h : handler.BuiltIn) : handler.Confined := by
  suffices hvalue : ∃ written? : Option Value → Value → Option Value, ∀ ns dest value,
      handler.value? ns dest value = written? (ns.get? dest) value by
    obtain ⟨written?, hwritten⟩ := hvalue
    refine ⟨written?, fun st dest value => ?_⟩
    rw [apply_eq h, hwritten]
    rfl
  cases handler with
  | setFirst => exact ⟨fun _ value => value.toList.head?, fun _ _ _ => rfl⟩
  | set => exact ⟨fun _ value => some value, fun _ _ _ => rfl⟩
  | append =>
    exact ⟨fun old value => some (.list ((old.map Value.toList).getD [] ++ [value])),
      fun _ _ _ => rfl⟩
  | extend =>
    exact ⟨fun old value => some (.list ((old.map Value.toList).getD [] ++ value.toList)),
      fun _ _ _ => rfl⟩
  | appendOrExtend =>
    exact ⟨fun old value => some (.list ((old.map Value.toList).getD [] ++ spread value)),
      fun _ _ _ => rfl⟩
  | custom f => exact h.elim

/-- What a confined handler writes is recorded. -/
theorem Confined.exists_recorded {handler : Handler} (h : handler.Confined) :
    ∃ written? : Option Value → Value → Option Value, ∀ dest value (c : Content),
      Recorded (handler.apply · dest value) c { c with
        attributes := c.attributes.put dest (written? (c.attributes.get? dest) value) } := by
  obtain ⟨written?, happly⟩ := h
  refine ⟨written?, fun dest value c => ?_⟩
  have hunder (sps : List Savepoint) : handler.apply (c.under sps) dest value =
      (c.under sps).put dest (written? (c.attributes.get? dest) value) := happly _ _ _
  cases hwritten : written? (c.attributes.get? dest) value with
  | none =>
    refine ⟨id, .refl c, fun sps => ?_⟩
    rw [List.map_id]
    exact (hunder sps).trans (by rw [hwritten]; rfl)
  | some written =>
    obtain ⟨f, hf, hop⟩ := Recorded.set c dest written
    refine ⟨f, hf, fun sps => ?_⟩
    exact (hunder sps).trans (by rw [hwritten]; exact hop sps)

theorem Confined.local {handler : Handler} (h : handler.Confined) : handler.Local := by
  obtain ⟨written?, hrecorded⟩ := h.exists_recorded
  exact fun dest value c => ⟨_, hrecorded dest value c⟩

/-- A confined handler writes related attributes where they are the same before. -/
theorem Confined.twins {handler : Handler} (h : handler.Confined) {dest dest' : String}
    (hsame : ∀ ns ns', N ns ns' → ns'.get? dest' = ns.get? dest)
    (hset : ∀ ns ns' value, N ns ns' → N (ns.set dest value) (ns'.set dest' value)) :
    handler.Twins N dest handler dest' := by
  obtain ⟨written?, happly⟩ := h
  intro st st' value hst
  have hold : st'.attribute? dest' = st.attribute? dest := hsame _ _ hst.attributes
  rw [happly, happly, hold]
  refine hst.put ?_
  cases written? (st.attribute? dest) value with
  | none => exact hst.attributes
  | some written => exact hset _ _ written hst.attributes

/-- A confined handler writes related attributes where it does not matter what is written. -/
theorem Confined.twins_of_put {handler : Handler} (h : handler.Confined) {dest dest' : String}
    (hput : ∀ ns ns' value? value'?, N ns ns' → N (ns.put dest value?) (ns'.put dest' value'?)) :
    handler.Twins N dest handler dest' := by
  obtain ⟨written?, happly⟩ := h
  intro st st' value hst
  rw [happly, happly]
  exact hst.put (hput _ _ _ _ hst.attributes)

theorem Twins.applyAll {handler handler' : Handler} {dests dests' : List String}
    (h : List.Forall₂ (handler.Twins N · handler') dests dests') (value : Value) {st st' : State}
    (hst : st.Like N st') :
    (dests.foldl (fun st dest => handler.apply st dest value) st).Like N
      (dests'.foldl (fun st dest => handler'.apply st dest value) st') := by
  induction h generalizing st st' with
  | nil => exact hst
  | cons hdest _ ih => exact ih (hdest st st' value hst)

end Handler

theorem Collector.gather_with_dest (collector : Collector) (dest : String) (count : Nat)
    (tokens : List String) :
    gather { collector with dest } count tokens = collector.gather count tokens := by
  induction tokens generalizing count with
  | nil => rfl
  | cons token rest ih => simp only [gather, ih]

theorem Collector.collect_with_dest (collector : Collector) (dest : String) :
    collect { collector with dest } = collector.collect := by
  simp only [collect, gather_with_dest]
  rfl

theorem State.Like.consume {st st' : State} (h : st.Like N st') (count : Nat) :
    (Collector.consume count st).Like N (Collector.consume count st') := by
  rw [Collector.consume, Collector.consume]
  split
  · exact h
  · obtain ⟨hnone, hnone'⟩ | ⟨taken, rest, rest', hsome, hsome', hrest⟩ := h.next? count
    · rw [hnone, hnone']
      exact h
    · rw [hsome, hsome']
      exact hrest

namespace Step.Twin

theorem captureStep {dests dests' : List String} {handler handler' : Handler} {x y : Step Bool}
    (h : Step.Twin N x y) (hwrites : List.Forall₂ (handler.Twins N · handler') dests dests')
    (id : Nat) (format : Option RawFormat) :
    Step.Twin N (Rule.captureStep id dests format handler x)
      (Rule.captureStep id dests' format handler' y) := by
  refine (save (.rule id)).bind fun handle => h.bind fun matched => .ite ?_ ?_ matched
  · refine .get fun st st' hst => ?_
    rw [hst.consumedTokens]
    have hrecord : ∀ s s' : State, s.Like N s' → _ := fun s s' hs =>
      Handler.Twins.applyAll hwrites (RawFormat.record format (st.consumedTokens handle)) hs
    exact (dismiss handle).bind fun _ =>
      .ite ((Step.Twin.modify hrecord).bind fun _ => .pure true) (.pure true) _
  · exact (restore handle).bind fun _ => .pure false

theorem collect (collector : Collector) : Step.Twin N collector.collect collector.collect := by
  rw [collector.collect_eq]
  refine (save (.rule collector.id)).bind fun handle => .get fun st st' hst => ?_
  rw [hst.tokens]
  exact (Step.Twin.modify fun s s' hs => hs.consume _).bind fun _ =>
    .ite ((dismiss handle).bind fun _ => .pure _) ((restore handle).bind fun _ => .pure none) _

theorem collectStep (collector : Collector) {handler handler' : Handler} {dest' : String}
    (hwrites : handler.Twins N collector.dest handler' dest') :
    Step.Twin N (Rule.collectStep collector handler)
      (Rule.collectStep { collector with dest := dest' } handler') := by
  rw [Rule.collectStep, Rule.collectStep, collector.collect_with_dest dest']
  refine (collect collector).bind fun values? => ?_
  cases values? with
  | none => exact .pure false
  | some values =>
    exact (Step.Twin.modify fun s s' hs => hwrites s s' _ hs).bind fun _ => .pure true

theorem onNext (p : String → Bool) : Step.Twin N (Rule.onNext p) (Rule.onNext p) := by
  rw [Rule.onNext_eq]
  refine .get fun st st' hst => ?_
  rw [hst.tokens]
  exact .pure _

theorem replaceNext (f : String → Option String) :
    Step.Twin N (Rule.replaceNext f) (Rule.replaceNext f) := by
  rw [Rule.replaceNext_eq]
  refine .get fun st st' hst => ?_
  rw [hst.tokens]
  cases st.tokens.head?.bind f with
  | none => exact .pure false
  | some token =>
    refine (Step.Twin.modify fun s s' hs => ?_).bind fun _ => .pure true
    rw [hs.tokens]
    exact hs.respell _ token

theorem limitStep (id : Nat) (most : Option Nat) :
    Step.Twin N (Rule.limitStep id most) (Rule.limitStep id most) := by
  refine .get fun st st' hst => ?_
  have hcount : Rule.matchCount id st' = Rule.matchCount id st := by
    rw [Rule.matchCount, State.fetch?, hst.scratch, ← State.fetch?, ← Rule.matchCount]
  rw [hcount]
  exact .ite (.pure false)
    ((Step.Twin.modify fun s s' hs => hs.store _ _ _).bind fun _ => .pure true) _

end Step.Twin

/-! ## Rules side by side -/

namespace Rule

/-- Two rules whose runs stay side by side. -/
def Twin (N : Namespace → Namespace → Prop) (rule rule' : Rule) : Prop :=
  Step.Twin N rule.run rule'.run

variable {rules rules' : List Rule} {rule rule' : Rule}

theorem twin_skip (n : Nat) : Twin N (.skip n) (.skip n) := by
  rw [Twin, run]
  refine .get fun st st' hst => ?_
  obtain ⟨hnone, hnone'⟩ | ⟨taken, rest, rest', hsome, hsome', hrest⟩ := hst.next? n
  · rw [hnone, hnone']
    exact .pure false
  · rw [hsome, hsome']
    exact (Step.Twin.set hrest).bind fun _ => .pure true

theorem twin_runAll (h : List.Forall₂ (Twin N) rules rules') :
    Step.Twin N (runAll rules) (runAll rules') := by
  induction h with
  | nil =>
    rw [runAll]
    exact .pure true
  | cons hrule _ ih =>
    rw [runAll, runAll]
    exact hrule.bind fun matched => .ite ih (.pure false) matched

theorem twin_runAny (h : List.Forall₂ (Twin N) rules rules') (owner : Owner) :
    Step.Twin N (runAny owner rules) (runAny owner rules') := by
  induction h with
  | nil =>
    rw [runAny]
    exact .pure false
  | cons hrule _ ih =>
    rw [runAny, runAny]
    exact (hrule.attempt owner).bind fun matched => .ite (.pure true) ih matched

theorem twin_all (h : List.Forall₂ (Twin N) rules rules') (id : Nat) :
    Twin N (.all id rules) (.all id rules') := by
  rw [Twin, run, run]
  exact (twin_runAll h).attempt _

theorem twin_any (h : List.Forall₂ (Twin N) rules rules') (id : Nat) :
    Twin N (.any id rules) (.any id rules') := by
  rw [Twin, run, run]
  exact twin_runAny h _

theorem twin_not (h : Twin N rule rule') (id : Nat) : Twin N (.not id rule) (.not id rule') := by
  rw [Twin, run, run]
  exact Step.Twin.notStep h id

theorem twin_capture (h : Twin N rule rule') {dests dests' : List String}
    {handler handler' : Handler}
    (hwrites : List.Forall₂ (handler.Twins N · handler') dests dests') (id : Nat)
    (format : Option RawFormat) :
    Twin N (.capture id dests rule format handler) (.capture id dests' rule' format handler') := by
  rw [Twin, run, run]
  exact Step.Twin.captureStep h hwrites id format

theorem twin_collect (collector : Collector) {handler handler' : Handler} {dest' : String}
    (hwrites : handler.Twins N collector.dest handler' dest') :
    Twin N (.collect collector handler) (.collect { collector with dest := dest' } handler') := by
  rw [Twin, run, run]
  exact .collectStep collector hwrites

/-- What a rule writes by itself, it writes by a handler that is its own twin. -/
def Steady (N : Namespace → Namespace → Prop) : Rule → Prop
  | .collect collector handler => handler.Twins N collector.dest handler collector.dest
  | .capture _ dests _ _ handler => ∀ dest ∈ dests, handler.Twins N dest handler dest
  | .custom _ => False
  | _ => True

/-- A rule is its own twin if its handlers are theirs. -/
theorem Each.twin (h : rule.Each (Steady N)) : Twin N rule rule := by
  induction h with
  | @intro rule root _ ih =>
    have hsubs : List.Forall₂ (Twin N) rule.subrules rule.subrules :=
      List.forall₂_same.mpr ih
    cases rule with
    | skip n => exact twin_skip n
    | check p =>
      rw [Twin, run]
      exact .onNext p
    | isIn words fold =>
      rw [Twin, run]
      exact .onNext _
    | isEmpty =>
      rw [Twin, run]
      exact .onNext _
    | not id rule => exact twin_not (ih rule List.mem_cons_self) id
    | replace f =>
      rw [Twin, run]
      exact .replaceNext f
    | removePrefix prefixes fold =>
      rw [Twin, run]
      exact .replaceNext _
    | all id rules => exact twin_all hsubs id
    | any id rules => exact twin_any hsubs id
    | limit id most =>
      rw [Twin, run]
      exact .limitStep id most
    | collect collector handler => exact twin_collect collector root
    | capture id dests rule format handler =>
      exact twin_capture (ih rule List.mem_cons_self) (List.forall₂_same.mpr root) id format
    | custom step => exact root.elim

end Rule

/-! ## Attributes side by side -/

/-- An attribute that is the same in both namespaces, and may be written or removed in both. -/
structure Namespace.Stable (N : Namespace → Namespace → Prop) (name : String) : Prop where
  same : ∀ ns ns', N ns ns' → ns'.get? name = ns.get? name
  set : ∀ ns ns' value, N ns ns' → N (ns.set name value) (ns'.set name value)
  remove : ∀ ns ns', N ns ns' → N (ns.remove name) (ns'.remove name)

theorem Handler.Confined.twins_of_stable {handler : Handler} (h : handler.Confined) {dest : String}
    (hdest : Namespace.Stable N dest) : handler.Twins N dest handler dest :=
  h.twins hdest.same hdest.set

/-- A tree that writes such attributes only, by confined handlers, is its own twin. -/
theorem Rule.Library.twin {rule : Rule} (h : rule.Library Handler.Confined)
    (hdests : rule.Each fun r => ∀ dest ∈ r.dests, Namespace.Stable N dest) :
    Rule.Twin N rule rule := by
  refine Each.twin ((h.and hdests).mono fun r hr => ?_)
  obtain ⟨hlibrary, hstable⟩ := hr
  cases r with
  | collect collector handler =>
    exact Handler.Confined.twins_of_stable hlibrary (hstable _ (List.mem_singleton_self _))
  | capture id dests rule format handler =>
    exact fun dest hdest => Handler.Confined.twins_of_stable hlibrary (hstable dest hdest)
  | custom step => exact hlibrary.elim
  | _ => trivial

/-- A validator of such an attribute fails alike for both namespaces, or keeps them side by side. -/
theorem Validator.apply_of_stable {v : Validator} (hv : Namespace.Stable N v.dest)
    {ns ns' : Namespace} (h : N ns ns') :
    (∃ e, v.apply ns = .error e ∧ v.apply ns' = .error e) ∨
      ∃ ms ms', v.apply ns = .ok ms ∧ v.apply ns' = .ok ms' ∧ N ms ms' := by
  have hsame := hv.same ns ns' h
  cases v with
  | require dest context =>
    have hcontains : ns'.contains dest = ns.contains dest := congrArg Option.isSome hsame
    rw [apply, apply, hcontains]
    split
    · exact .inr ⟨ns, ns', rfl, rfl, h⟩
    · exact .inl ⟨_, rfl, rfl⟩
  | default dest value =>
    have hcontains : ns'.contains dest = ns.contains dest := congrArg Option.isSome hsame
    refine .inr ⟨_, _, rfl, rfl, ?_⟩
    rw [hcontains]
    split
    · exact h
    · exact hv.set _ _ value h
  | remove dest => exact .inr ⟨_, _, rfl, rfl, hv.remove _ _ h⟩
  | count dest bounds context =>
    have hget : ns'.get? dest = ns.get? dest := hsame
    simp only [apply, hget]
    cases ns.get? dest with
    | none => exact .inr ⟨ns, ns', rfl, rfl, h⟩
    | some value =>
      simp only
      cases checkCount dest bounds context value.toList with
      | error e => exact .inl ⟨e, rfl, rfl⟩
      | ok _ => exact .inr ⟨ns, ns', rfl, rfl, h⟩

/-- Validators of such attributes fail alike for both namespaces, or keep them side by side. -/
theorem TokenParser.validate_of_stable {mode : Mode} {vs : List Validator}
    (hvs : ∀ v ∈ vs, Namespace.Stable N v.dest) {ns ns' : Namespace} (h : N ns ns') :
    (∃ e, validate mode vs ns = .error e ∧ validate mode vs ns' = .error e) ∨
      ∃ ms ms', validate mode vs ns = .ok ms ∧ validate mode vs ns' = .ok ms' ∧ N ms ms' := by
  induction vs generalizing ns ns' with
  | nil => exact .inr ⟨ns, ns', rfl, rfl, h⟩
  | cons v vs ih =>
    obtain ⟨hv, hvs⟩ := List.forall_mem_cons.mp hvs
    rw [validate, validate]
    obtain ⟨e, he, he'⟩ | ⟨ms, ms', hms, hms', hrel⟩ := v.apply_of_stable hv h
    · rw [he, he']
      simp only
      split
      · exact .inl ⟨e, rfl, rfl⟩
      · exact ih hvs h
    · rw [hms, hms']
      exact ih hvs hrel

/-! ## Parses side by side -/

namespace TokenParser

variable {p q : TokenParser}

theorem twin_advance (h : List.Forall₂ (Rule.Twin N) p.rules q.rules) :
    Step.Twin N p.advance q.advance := by
  have hprogress (before : Nat) : Step.Twin N (p.progress before) (q.progress before) := by
    refine (Rule.twin_runAny h .choice).bind fun matched => .get fun st st' hst => ?_
    rw [hst.tokens]
    exact .pure _
  intro st st' hst
  rw [advance_eq_attempt, advance_eq_attempt, hst.tokens]
  exact (hprogress _).attempt .driver st st' hst

theorem twin_skip {mode : Mode}
    (hunknown : ∀ dest ∈ mode.unknownDest, Handler.extend.Twins N dest .extend dest) :
    Step.Twin N (skip mode) (skip mode) := by
  refine .get fun st st' hst => ?_
  rw [hst.tokens]
  obtain ⟨hnone, hnone'⟩ | ⟨taken, rest, rest', hsome, hsome', hrest⟩ :=
    hst.next? (mode.skipCount st.tokens.size)
  · rw [hnone, hnone']
    have hrecorded := Handler.Twins.applyAll (List.forall₂_same.mpr hunknown) (.ofTexts []) hst
    exact (Step.Twin.set hrecorded).bind fun _ => .pure []
  · rw [hsome, hsome']
    have hrecorded := Handler.Twins.applyAll (List.forall₂_same.mpr hunknown) (.ofTexts taken) hrest
    exact (Step.Twin.set hrecorded).bind fun _ => .pure taken

/-- As long as the rules are twins, the rounds of two parsers stay side by side. -/
theorem twin_consumeAll (h : List.Forall₂ (Rule.Twin N) p.rules q.rules) {mode : Mode}
    (hunknown : ∀ dest ∈ mode.unknownDest, Handler.extend.Twins N dest .extend dest)
    (rounds : Nat) : Step.Twin N (p.consumeAll mode rounds) (q.consumeAll mode rounds) := by
  induction rounds with
  | zero => exact .pure []
  | succ rounds ih =>
    rw [consumeAll, consumeAll]
    refine .get fun st st' hst => ?_
    rw [hst.tokens]
    refine .ite (.pure []) ?_ _
    refine (twin_advance h).bind fun matched => .ite ih ?_ matched
    exact (twin_skip hunknown).bind fun skipped => ih.bind fun rest => .pure (skipped ++ rest)

theorem finish_eq_of_like {st st' : State} (h : st.Like N st') :
    (∃ e, st.finish = .error e ∧ st'.finish = .error e) ∨
      st.finish = .ok st.attributes ∧ st'.finish = .ok st'.attributes := by
  have hdepth : st'.depth = st.depth := h.savepoints.length_eq.symm
  have hopen : st'.savepoints = [] ↔ st.savepoints = [] := by
    rw [← List.length_eq_zero_iff, ← List.length_eq_zero_iff, h.savepoints.length_eq]
  rw [State.finish, State.finish, h.tokens, hdepth]
  simp only [ne_eq, hopen]
  split
  · exact .inl ⟨_, rfl, rfl⟩
  · split
    · exact .inl ⟨_, rfl, rfl⟩
    · exact .inr ⟨rfl, rfl⟩

/-- Two parsers whose rules are twins, from related attributes at the start, fail alike before any
validator is run, or give up on the same tokens and hand over related attributes to the
validators. -/
theorem twin_parse (h : List.Forall₂ (Rule.Twin N) p.rules q.rules) {mode : Mode}
    (hunknown : ∀ dest ∈ mode.unknownDest, Handler.extend.Twins N dest .extend dest)
    {seed seed' : Option Namespace} (hseed : N (seed.getD .empty) (seed'.getD .empty))
    (tokens : List String) :
    (∃ e, p.parse mode tokens seed = .error e ∧ q.parse mode tokens seed' = .error e) ∨
      ∃ unparsed ns ns', N ns ns' ∧
        p.parse mode tokens seed = (validate mode p.validators ns).map (·, unparsed) ∧
        q.parse mode tokens seed' = (validate mode q.validators ns').map (·, unparsed) := by
  have hstart : (State.start tokens seed).Like N (.start tokens seed') :=
    ⟨rfl, hseed, rfl, .nil, .nil, .nil⟩
  rw [parse, parse]
  obtain ⟨unparsed, st, st', hrun, hrun', hst⟩ | ⟨e, st, st', hrun, hrun', -⟩ :=
    twin_consumeAll h hunknown tokens.length _ _ hstart
  · rw [hrun, hrun']
    simp only
    split
    · exact .inl ⟨_, rfl, rfl⟩
    · obtain ⟨e, he, he'⟩ | ⟨hfinish, hfinish'⟩ := finish_eq_of_like hst
      · exact .inl ⟨e, by rw [he]; rfl, by rw [he']; rfl⟩
      · refine .inr ⟨unparsed, _, _, hst.attributes, ?_, ?_⟩
        · rw [hfinish]
          rfl
        · rw [hfinish']
          rfl
  · rw [hrun, hrun']
    exact .inl ⟨e, rfl, rfl⟩

end TokenParser

end TokenGrammar
