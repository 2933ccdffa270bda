import TokenGrammar.Handler

/-!
# Recordings

What an open savepoint knows of the past, and what the operations of a state do to that knowledge.
Only the content of a state is at stake here: its tokens, attributes and kept values, and not the
stack of savepoints itself.

* `Content.rollBack`: the content that a savepoint puts back;
* `Recording`: a change of content, with what it records in every savepoint that is open. Rolling
  back after it gives what rolling back before it gave (`Recording.now`), and a content that the
  savepoint led back to the same place still leads there (`Recording.past`);
* `State.Records`: one state follows another by a recording. Consuming and replacing tokens,
  writing attributes and keeping values are recordings, and so is any number of them in a row;
* `Handler.apply_eq`: a built-in handler writes one attribute or nothing.
-/

namespace TokenGrammar

/-- Everything of a state but its open savepoints. -/
@[ext]
structure Content where
  tokens : TokenBuffer
  attributes : Namespace
  scratch : Scratch

/-- The content of a state. -/
def State.content (st : State) : Content := ⟨st.tokens, st.attributes, st.scratch⟩

/-- The state with a content and open savepoints. -/
def Content.under (c : Content) (sps : List Savepoint) : State :=
  ⟨c.tokens, c.attributes, c.scratch, sps⟩

namespace Content

@[simp]
theorem content_under (c : Content) (sps : List Savepoint) : (c.under sps).content = c := rfl

@[simp]
theorem savepoints_under (c : Content) (sps : List Savepoint) :
    (c.under sps).savepoints = sps := rfl

@[simp]
theorem tokens_under (c : Content) (sps : List Savepoint) : (c.under sps).tokens = c.tokens := rfl

@[simp]
theorem attributes_under (c : Content) (sps : List Savepoint) :
    (c.under sps).attributes = c.attributes := rfl

@[simp]
theorem scratch_under (c : Content) (sps : List Savepoint) :
    (c.under sps).scratch = c.scratch := rfl

@[simp]
theorem depth_under (c : Content) (sps : List Savepoint) : (c.under sps).depth = sps.length := rfl

end Content

@[simp]
theorem State.under_content (st : State) : st.content.under st.savepoints = st := rfl

theorem State.exists_eq_under {st : State} (h : st.savepoints = []) :
    ∃ c : Content, st = c.under [] :=
  ⟨st.content, by rw [← h, State.under_content]⟩

/-! ## Rewinding tokens -/

namespace TokenBuffer

/-- A buffer is determined by its cursor and the tokens at its positions. -/
theorem ext_at? {b d : TokenBuffer} (hc : b.cursor = d.cursor) (h : ∀ p, b.at? p = d.at? p) :
    b = d := by
  obtain ⟨ts, c⟩ := b
  obtain ⟨us, e⟩ := d
  have : ts = us := List.ext_getElem? h
  subst this hc
  rfl

@[simp]
theorem at?_with_cursor (b : TokenBuffer) (cursor p : Nat) :
    ({ b with cursor } : TokenBuffer).at? p = b.at? p := rfl

@[simp]
theorem cursor_rewind (b : TokenBuffer) (cursor : Nat) (spellings : List (Nat × String)) :
    (b.rewind cursor spellings).cursor = cursor := rfl

/-- Rewinding puts the first of the recorded spellings at each position. -/
theorem at?_rewind (b : TokenBuffer) (cursor : Nat) (spellings : List (Nat × String)) (p : Nat) :
    (b.rewind cursor spellings).at? p =
      (b.at? p).map fun token => (spellings.lookup p).getD token := by
  rw [rewind, at?_with_cursor]
  induction spellings with
  | nil => simp
  | cons s ss ih =>
    obtain ⟨position, first⟩ := s
    rw [List.foldr_cons, at?_replace, List.lookup_cons]
    by_cases hp : p = position
    · subst hp
      simp only [ih, beq_self_eq_true, if_pos, Option.map_map, Option.getD_some]
      rfl
    · simp only [ih, hp, if_false, beq_false_of_ne hp]

end TokenBuffer

/-! ## Buffers in memory -/

/-- A buffer in memory: the cursor is within it, and its length is a word. -/
structure TokenBuffer.Valid (b : TokenBuffer) : Prop where
  cursor : b.cursor ≤ b.tokens.length
  length : b.tokens.length < UInt64.size

namespace TokenBuffer.Valid

variable {b : TokenBuffer}

theorem ofTokens {tokens : List String} (h : tokens.length < UInt64.size) :
    (TokenBuffer.ofTokens tokens).Valid := ⟨Nat.zero_le _, h⟩

/-- The cursor is a word. -/
theorem front (h : b.Valid) : b.front = b.cursor := by
  rw [TokenBuffer.front, UInt64.toNat_ofNat']
  exact Nat.mod_eq_of_lt (Nat.lt_of_le_of_lt h.cursor h.length)

/-- The next token is the first of the ones that are left. -/
theorem head? (h : b.Valid) : b.head? = b.remaining.head? := by
  rw [TokenBuffer.head?, h.front, remaining, List.head?_drop, at?]

theorem replace (h : b.Valid) (p : Nat) (token : String) : (b.replace p token).Valid := by
  refine ⟨?_, ?_⟩
  · rw [cursor_replace, TokenBuffer.replace, List.length_set]
    exact h.cursor
  · rw [TokenBuffer.replace, List.length_set]
    exact h.length

theorem remaining_replace (h : b.Valid) {first : String} {rest : List String}
    (hb : b.remaining = first :: rest) (token : String) :
    (b.replace b.front token).remaining = token :: rest := by
  rw [h.front]
  rw [remaining] at hb
  rw [remaining, TokenBuffer.replace, List.drop_set, if_neg (Nat.lt_irrefl _), hb, Nat.sub_self]
  rfl

theorem take (h : b.Valid) {n : Nat} (hn : n ≤ b.size) :
    ({ b with cursor := b.cursor + n } : TokenBuffer).Valid := by
  refine ⟨?_, h.length⟩
  have := h.cursor
  simp only [size] at hn
  show b.cursor + n ≤ b.tokens.length
  omega

theorem of_take (h : b.Valid) {n : Nat} {taken : List String} {rest : TokenBuffer}
    (ht : b.take? n = some (taken, rest)) : rest.Valid := by
  simp only [take?, Option.ite_none_left_eq_some, Option.some.injEq, Prod.mk.injEq] at ht
  obtain ⟨hn, -, rfl⟩ := ht
  exact h.take (Nat.le_of_not_lt hn)

end TokenBuffer.Valid

theorem TokenBuffer.remaining_advance (b : TokenBuffer) (n : Nat) :
    ({ b with cursor := b.cursor + n } : TokenBuffer).remaining = b.remaining.drop n := by
  rw [remaining, remaining, List.drop_drop]

/-! ## Rolling back contents -/

namespace Savepoint

/-- A savepoint that knows nothing yet. -/
def fresh (owner : Owner) : Savepoint := ⟨owner, none, none, none⟩

/-- The tokens that a savepoint puts back. -/
def tokensFrom (sp : Savepoint) (b : TokenBuffer) : TokenBuffer :=
  match sp.tokens with
  | some snapshot => b.rewind snapshot.cursor snapshot.spellings
  | none => b

theorem tokensFrom_none {sp : Savepoint} (h : sp.tokens = none) (b : TokenBuffer) :
    sp.tokensFrom b = b := by
  rw [tokensFrom, h]

theorem cursor_tokensFrom {sp : Savepoint} {s : TokenSnapshot} (h : sp.tokens = some s)
    (b : TokenBuffer) : (sp.tokensFrom b).cursor = s.cursor := by
  rw [tokensFrom, h]
  rfl

/-- What a savepoint puts back at a position is the first spelling that it has recorded there. -/
theorem at?_tokensFrom {sp : Savepoint} {s : TokenSnapshot} (h : sp.tokens = some s)
    (b : TokenBuffer) (p : Nat) :
    (sp.tokensFrom b).at? p = (b.at? p).map fun token => (s.firstSpelling? p).getD token := by
  rw [tokensFrom, h]
  exact b.at?_rewind s.cursor s.spellings p

/-- Records the cursor, unless something is known of the tokens already. -/
def touch (cursor : Nat) (sp : Savepoint) : Savepoint :=
  { sp with tokens := some (sp.tokens.getD ⟨cursor, []⟩) }

/-- Records the spelling of a token that is about to be replaced. -/
def spell (position : Nat) (token : String) (sp : Savepoint) : Savepoint :=
  { sp with tokens := sp.tokens.map (·.record position token) }

/-- Touching the tokens loses nothing, wherever the cursor goes afterwards. -/
theorem tokensFrom_touch (sp : Savepoint) (b : TokenBuffer) (cursor : Nat) :
    (sp.touch b.cursor).tokensFrom { b with cursor } = sp.tokensFrom b := by
  cases h : sp.tokens with
  | none => simp [tokensFrom, touch, h, TokenBuffer.rewind]
  | some s =>
    have ht : (sp.touch b.cursor).tokens = some s := by simp [touch, h]
    refine TokenBuffer.ext_at? ?_ fun p => ?_
    · rw [cursor_tokensFrom ht, cursor_tokensFrom h]
    · rw [at?_tokensFrom ht, at?_tokensFrom h, TokenBuffer.at?_with_cursor]

/-- A recorded spelling is the one to put back: the token may be replaced after it. -/
theorem tokensFrom_spell {sp : Savepoint} {s : TokenSnapshot} (h : sp.tokens = some s)
    {b : TokenBuffer} {p : Nat} {current : String} (hp : b.at? p = some current) (token : String) :
    (sp.spell p current).tokensFrom (b.replace p token) = sp.tokensFrom b := by
  have ht : (sp.spell p current).tokens = some (s.record p current) := by simp [spell, h]
  refine TokenBuffer.ext_at? ?_ fun q => ?_
  · rw [cursor_tokensFrom ht, cursor_tokensFrom h, TokenSnapshot.cursor_record]
  · rw [at?_tokensFrom ht, at?_tokensFrom h, TokenBuffer.at?_replace,
      TokenSnapshot.firstSpelling?_record]
    by_cases hq : q = p
    · subst hq
      simp [hp]
    · simp [hq]

/-- Recording the spelling of a token that the savepoint puts back anyway changes nothing. -/
theorem tokensFrom_spell_of_eq {sp : Savepoint} {s : TokenSnapshot} (h : sp.tokens = some s)
    {b d : TokenBuffer} {p : Nat} {current : String} (hp : b.at? p = some current)
    (hd : sp.tokensFrom d = sp.tokensFrom b) :
    (sp.spell p current).tokensFrom d = sp.tokensFrom b := by
  have ht : (sp.spell p current).tokens = some (s.record p current) := by simp [spell, h]
  rw [← hd]
  refine TokenBuffer.ext_at? ?_ fun q => ?_
  · rw [cursor_tokensFrom ht, cursor_tokensFrom h, TokenSnapshot.cursor_record]
  · rw [at?_tokensFrom ht, at?_tokensFrom h, TokenSnapshot.firstSpelling?_record]
    by_cases hq : q = p
    · subst hq
      have := congrArg (·.at? q) hd
      simp only [at?_tokensFrom h, hp, Option.map_some] at this
      cases hdq : d.at? q with
      | none => simp
      | some t => simpa [hdq] using this.symm
    · simp [hq]

end Savepoint

/-- The content that a savepoint puts back. -/
def Content.rollBack (c : Content) (sp : Savepoint) : Content :=
  ⟨sp.tokensFrom c.tokens, sp.attributes.getD c.attributes, sp.scratch.getD c.scratch⟩

theorem State.rollBack_eq (st : State) (sp : Savepoint) :
    st.rollBack sp = (st.content.rollBack sp).under st.savepoints := rfl

@[simp]
theorem Content.rollBack_fresh (c : Content) (owner : Owner) :
    c.rollBack (.fresh owner) = c := rfl

/-! ## Changes that are recorded -/

/-- The change from `c` to `d` is recorded by `f` in every open savepoint. -/
structure Recording (f : Savepoint → Savepoint) (c d : Content) : Prop where
  owner : ∀ sp, (f sp).owner = sp.owner
  /-- The savepoint puts back what it would have put back before the change. -/
  now : ∀ sp, d.rollBack (f sp) = c.rollBack sp
  /-- An older content that led there by the savepoint still does. -/
  past : ∀ sp (b : Content), b.rollBack sp = c.rollBack sp → b.rollBack (f sp) = c.rollBack sp

namespace Recording

theorem refl (c : Content) : Recording id c c := ⟨fun _ => rfl, fun _ => rfl, fun _ _ h => h⟩

theorem trans {f g : Savepoint → Savepoint} {c d e : Content} (h : Recording f c d)
    (h' : Recording g d e) : Recording (g ∘ f) c e where
  owner sp := (h'.owner _).trans (h.owner sp)
  now sp := (h'.now _).trans (h.now sp)
  past sp b hb := by
    have hd : b.rollBack (f sp) = d.rollBack (f sp) := (h.past sp b hb).trans (h.now sp).symm
    exact (h'.past (f sp) b hd).trans (h.now sp)

/-- The savepoint opened before the change puts back all of it. -/
theorem rollBack_fresh {f : Savepoint → Savepoint} {c d : Content} (h : Recording f c d)
    (owner : Owner) : d.rollBack (f (.fresh owner)) = c := h.now (.fresh owner)

theorem map_owner {f : Savepoint → Savepoint} {c d : Content} (h : Recording f c d)
    (sps : List Savepoint) : (sps.map f).map (·.owner) = sps.map (·.owner) := by
  simp [h.owner]

/-- A change that is taken back is a change of nothing, but what was recorded stays recorded. -/
theorem undo {f : Savepoint → Savepoint} {c d : Content} (h : Recording f c d) :
    Recording f c c :=
  ⟨h.owner, fun sp => h.past sp c rfl, h.past⟩

/-- A change of tokens, from what it does to the tokens that a savepoint puts back. -/
theorem of_tokens {f : Savepoint → Option TokenSnapshot} {c : Content} {b : TokenBuffer}
    (now : ∀ sp : Savepoint, { sp with tokens := f sp }.tokensFrom b = sp.tokensFrom c.tokens)
    (past : ∀ (sp : Savepoint) (d : TokenBuffer), sp.tokensFrom d = sp.tokensFrom c.tokens →
      { sp with tokens := f sp }.tokensFrom d = sp.tokensFrom c.tokens) :
    Recording (fun sp => { sp with tokens := f sp }) c { c with tokens := b } where
  owner _ := rfl
  now sp := Content.ext (now sp) rfl rfl
  past sp d hd := by
    obtain ⟨ht, ha, hs⟩ := Content.ext_iff.mp hd
    exact Content.ext (past sp d.tokens ht) ha hs

/-- Moving the cursor, once the savepoints know where it was. -/
theorem touch (c : Content) (cursor : Nat) :
    Recording (Savepoint.touch c.tokens.cursor) c { c with tokens.cursor := cursor } := by
  refine of_tokens (fun sp => sp.tokensFrom_touch c.tokens cursor) fun sp d hd => ?_
  obtain h | ⟨s, h⟩ := Option.eq_none_or_eq_some sp.tokens
  · rw [Savepoint.tokensFrom_none h, Savepoint.tokensFrom_none h] at hd
    subst hd
    exact sp.tokensFrom_touch c.tokens c.tokens.cursor
  · simpa [Savepoint.tokensFrom, h] using hd

/-- Replacing a token, once the savepoints know how it was spelled. -/
theorem spell {c : Content} {p : Nat} {current : String} (hp : c.tokens.at? p = some current)
    (token : String) :
    Recording (Savepoint.spell p current ∘ Savepoint.touch c.tokens.cursor) c
      { c with tokens := c.tokens.replace p token } := by
  have known (sp : Savepoint) : ∃ s, (sp.touch c.tokens.cursor).tokens = some s := ⟨_, rfl⟩
  have touched := touch c c.tokens.cursor
  refine of_tokens (fun sp => ?_) fun sp d hd => ?_
  · obtain ⟨s, hs⟩ := known sp
    exact (Savepoint.tokensFrom_spell hs hp token).trans (congrArg Content.tokens (touched.now sp))
  · obtain ⟨s, hs⟩ := known sp
    have hc := congrArg Content.tokens (touched.now sp)
    have hb := congrArg Content.tokens
      (touched.past sp { c with tokens := d } (Content.ext hd rfl rfl))
    exact (Savepoint.tokensFrom_spell_of_eq hs hp (hb.trans hc.symm)).trans hc

/-- Consuming tokens. -/
theorem take {c : Content} {n : Nat} {taken : List String} {b : TokenBuffer}
    (h : c.tokens.take? n = some (taken, b)) :
    Recording (Savepoint.touch c.tokens.cursor) c { c with tokens := b } := by
  simp only [TokenBuffer.take?, Option.ite_none_left_eq_some, Option.some.injEq,
    Prod.mk.injEq] at h
  obtain ⟨-, -, rfl⟩ := h
  exact touch c (c.tokens.cursor + n)

/-- Writing attributes, once the savepoints know what they were. -/
theorem attributes (c : Content) (attributes : Namespace) :
    Recording (fun sp => { sp with attributes := some (sp.attributes.getD c.attributes) }) c
      { c with attributes } where
  owner _ := rfl
  now _ := rfl
  past sp b hb := by
    obtain ⟨ht, ha, hs⟩ := Content.ext_iff.mp hb
    refine Content.ext ht ?_ hs
    cases h : sp.attributes <;> simp [Content.rollBack, h]

/-- Keeping values, once the savepoints know what was kept. -/
theorem scratch (c : Content) (scratch : Scratch) :
    Recording (fun sp => { sp with scratch := some (sp.scratch.getD c.scratch) }) c
      { c with scratch } where
  owner _ := rfl
  now _ := rfl
  past sp b hb := by
    obtain ⟨ht, ha, hs⟩ := Content.ext_iff.mp hb
    refine Content.ext ht ha ?_
    cases h : sp.scratch <;> simp [Content.rollBack, h]

end Recording

/-! ## Operations that are recorded -/

/-- The operation changes the one content into the other and records it, whatever savepoints are
open. -/
def Recorded (op : State → State) (c d : Content) : Prop :=
  ∃ f, Recording f c d ∧ ∀ sps, op (c.under sps) = d.under (sps.map f)

namespace Recorded

theorem refl (c : Content) : Recorded id c c :=
  ⟨id, .refl c, fun sps => by rw [List.map_id, id]⟩

theorem trans {op op' : State → State} {c d e : Content} (h : Recorded op c d)
    (h' : Recorded op' d e) : Recorded (op' ∘ op) c e := by
  obtain ⟨f, hf, hop⟩ := h
  obtain ⟨g, hg, hop'⟩ := h'
  refine ⟨g ∘ f, hf.trans hg, fun sps => ?_⟩
  rw [Function.comp_apply, hop, hop', List.map_map]

theorem respell (c : Content) (position : Nat) (token : String) :
    Recorded (·.respell position token) c
      { c with tokens := c.tokens.replace position token } := by
  cases h : c.tokens.at? position with
  | none =>
    have same : c.tokens.replace position token = c.tokens := by
      rw [TokenBuffer.replace, List.set_eq_of_length_le (List.getElem?_eq_none_iff.mp h)]
    rw [same]
    refine ⟨id, .refl c, fun sps => ?_⟩
    simp only [State.respell, Content.tokens_under, h, List.map_id]
  | some current =>
    refine ⟨_, .spell h token, fun sps => ?_⟩
    simp only [State.respell, Content.tokens_under, h]
    exact congrArg (Content.under { c with tokens := c.tokens.replace _ token }) List.map_map

/-- The same for the next token, wherever it is. -/
theorem respell_front (c : Content) (token : String) :
    Recorded (fun st => st.respell st.tokens.front token) c
      { c with tokens := c.tokens.replace c.tokens.front token } :=
  respell c c.tokens.front token

theorem set (c : Content) (name : String) (value : Value) :
    Recorded (·.set name value) c { c with attributes := c.attributes.set name value } :=
  ⟨_, .attributes c _, fun _ => rfl⟩

theorem store (c : Content) (owner : Owner) (key : String) (value : Value) :
    Recorded (·.store owner key value) c { c with scratch := c.scratch.set owner key value } :=
  ⟨_, .scratch c _, fun _ => rfl⟩

end Recorded

/-- The second state follows the first by a change that is recorded in every open savepoint. -/
def State.Records (st st' : State) : Prop :=
  ∃ f, st'.savepoints = st.savepoints.map f ∧ Recording f st.content st'.content

namespace State

namespace Records

@[refl]
theorem refl (st : State) : Records st st := ⟨id, (List.map_id _).symm, .refl _⟩

theorem trans {st st' st'' : State} (h : Records st st') (h' : Records st' st'') :
    Records st st'' := by
  obtain ⟨f, hf, rf⟩ := h
  obtain ⟨g, hg, rg⟩ := h'
  exact ⟨g ∘ f, by rw [hg, hf, List.map_map], rf.trans rg⟩

/-- The open savepoints and their owners stay. -/
theorem owners {st st' : State} (h : Records st st') :
    st'.savepoints.map (·.owner) = st.savepoints.map (·.owner) := by
  obtain ⟨f, hf, rf⟩ := h
  rw [hf, rf.map_owner]

theorem depth {st st' : State} (h : Records st st') : st'.depth = st.depth := by
  obtain ⟨f, hf, -⟩ := h
  simp [State.depth, hf]

/-- A recorded operation on a state, and the content that it leads to. -/
theorem of_recorded {op : State → State} {st : State} {d : Content}
    (h : Recorded op st.content d) : Records st (op st) ∧ (op st).content = d := by
  obtain ⟨f, hf, hop⟩ := h
  have heq : op st = d.under (st.savepoints.map f) := hop st.savepoints
  rw [heq]
  exact ⟨⟨f, rfl, hf⟩, rfl⟩

end Records

/-- Consuming tokens moves on in the buffer, and records where that was. -/
theorem next?_eq_some {st rest : State} {n : Nat} {taken : List String} :
    st.next? n = some (taken, rest) ↔
      ∃ buffer, st.tokens.take? n = some (taken, buffer) ∧
        { st.captureTokens with tokens := buffer } = rest := by
  simp only [next?, Option.map_eq_some_iff, Prod.exists, Prod.mk.injEq]
  constructor
  · rintro ⟨_, buffer, hbuffer, rfl, rfl⟩
    exact ⟨buffer, hbuffer, rfl⟩
  · rintro ⟨buffer, hbuffer, rfl⟩
    exact ⟨taken, buffer, hbuffer, rfl, rfl⟩

theorem records_next {st rest : State} {n : Nat} {taken : List String}
    (h : st.next? n = some (taken, rest)) : Records st rest := by
  obtain ⟨buffer, hbuffer, rfl⟩ := next?_eq_some.mp h
  exact ⟨_, rfl, Recording.take (c := st.content) hbuffer⟩

theorem records_setToken {st st' : State} {index : UInt64} {token : String}
    (h : st.setToken index token = .ok st') :
    ∃ position, st.tokens.position index = .ok position ∧ Records st st' ∧
      st'.content = { st.content with tokens := st.tokens.replace position token } := by
  obtain ⟨position, hposition, rfl⟩ := setToken_eq_ok.mp h
  exact ⟨position, hposition, Records.of_recorded (.respell st.content position token)⟩

end State

/-! ## Opening and releasing savepoints -/

namespace Step

variable {ε σ α β : Type}

theorem get_bind (f : σ → EStateM ε σ β) (s : σ) : (get >>= f) s = f s s := rfl

theorem get_apply (s : σ) : (get : EStateM ε σ σ) s = .ok s s := rfl

theorem bind_apply (x : EStateM ε σ α) (f : α → EStateM ε σ β) (s : σ) :
    (x >>= f) s =
      match x s with
      | .ok a mid => f a mid
      | .error e mid => .error e mid := by
  show EStateM.bind x f s = _
  rw [EStateM.bind]
  cases x s <;> rfl

theorem run'_eq_some {x : EStateM ε σ α} {a : α} {s : σ} :
    x.run' s = some a ↔ ∃ s', x s = .ok a s' := by
  delta EStateM.run' EStateM.run
  cases x s <;> simp

end Step

namespace State

/-- The state with a new savepoint. -/
def opened (st : State) (owner : Owner) : State :=
  st.content.under (.fresh owner :: st.savepoints)

@[simp]
theorem tokens_opened (st : State) (owner : Owner) : (st.opened owner).tokens = st.tokens := rfl

@[simp]
theorem content_opened (st : State) (owner : Owner) : (st.opened owner).content = st.content := rfl

/-- A savepoint is opened just where the owner has none. -/
theorem save_eq (owner : Owner) (st : State) :
    save owner st =
      if st.savepoints.any (·.owner = owner) then .error (.grammar (.duplicateSavepoint owner)) st
      else .ok ⟨st.depth⟩ (st.opened owner) := by
  rw [save, Step.get_bind]
  split <;> rfl

/-- The youngest savepoint is released, and no other. -/
theorem pop_eq (handle : Handle) (st : State) :
    pop handle st =
      match st.savepoints with
      | [] => .error (.savepointOrder 0 handle.depth) st
      | sp :: rest =>
        if handle.depth = rest.length then .ok sp (st.content.under rest)
        else .error (.savepointOrder rest.length handle.depth) st := by
  rw [pop, Step.get_bind]
  cases st.savepoints with
  | nil => rfl
  | cons sp rest =>
    simp only
    split <;> rfl

theorem dismiss_eq (handle : Handle) (st : State) :
    dismiss handle st =
      match pop handle st with
      | .ok _ st' => .ok () st'
      | .error e st' => .error e st' := by
  rw [dismiss, Step.bind_apply]
  cases pop handle st <;> rfl

theorem restore_eq (handle : Handle) (st : State) :
    restore handle st =
      match pop handle st with
      | .ok sp st' => .ok () (st'.rollBack sp)
      | .error e st' => .error e st' := by
  rw [restore, Step.bind_apply]
  cases pop handle st <;> rfl

end State

/-! ## What handlers write -/

namespace Handler

/-- A handler that is not of the user's making. -/
def BuiltIn : Handler → Prop
  | .custom _ => False
  | _ => True

/-- The items that a value counts for where one item or none is added by itself. -/
def spread : Value → List Value
  | .list items => if items.length ≤ 1 then items else [.list items]
  | .str s => if s = "" then [] else [.str s]
  | value => [value]

/-- What a built-in handler writes to a destination, where it writes anything. -/
def value? (handler : Handler) (ns : Namespace) (dest : String) (value : Value) : Option Value :=
  let added (items : List Value) : Option Value :=
    some (.list (((ns.get? dest).map Value.toList).getD [] ++ items))
  match handler with
  | .setFirst => value.toList.head?
  | .set => some value
  | .append => added [value]
  | .extend => added value.toList
  | .appendOrExtend => added (spread value)
  | .custom _ => none

/-- The attributes after a built-in handler has written to a destination. -/
def write (handler : Handler) (dest : String) (value : Value) (ns : Namespace) : Namespace :=
  ((handler.value? ns dest value).map (ns.set dest)).getD ns

theorem appendOrExtend_eq (st : State) (dest : String) (value : Value) :
    st.appendOrExtend dest value = st.set dest (.list (st.items dest ++ spread value)) := by
  cases value with
  | list items =>
    rw [State.appendOrExtend, spread]
    split <;> rfl
  | str s =>
    rw [State.appendOrExtend, spread]
    split <;> rfl
  | _ => rfl

theorem apply_eq {handler : Handler} (h : handler.BuiltIn) (st : State) (dest : String)
    (value : Value) :
    handler.apply st dest value =
      ((handler.value? st.attributes dest value).map (st.set dest)).getD st := by
  cases handler with
  | setFirst => cases hv : value.toList <;> simp [apply, State.setFirst, value?, hv]
  | appendOrExtend => exact appendOrExtend_eq st dest value
  | custom f => exact h.elim
  | _ => rfl

end Handler

/-- Writes values to destinations, one after the other. -/
def Handler.applyAll (handler : Handler) (writes : List (String × Value)) (st : State) : State :=
  writes.foldl (fun st w => handler.apply st w.1 w.2) st

/-- What a capture writes for consumed tokens: nothing, unless the value is truthy. -/
def RawFormat.writes (dests : List String) (format : Option RawFormat) (consumed : List String) :
    List (String × Value) :=
  if (record format consumed).truthy then dests.map (·, record format consumed) else []

/-- What a capture does with the tokens, once its savepoint is released. -/
theorem Handler.record_apply {dests : List String} {format : Option RawFormat} {handler : Handler}
    {consumed : List String} {st : State} :
    (if (RawFormat.record format consumed).truthy = true then do
      modify fun st => dests.foldl
        (fun st dest => handler.apply st dest (RawFormat.record format consumed)) st
      pure true
    else pure true : Step Bool) st =
      .ok true (handler.applyAll (RawFormat.writes dests format consumed) st) := by
  rw [RawFormat.writes]
  cases (RawFormat.record format consumed).truthy with
  | true =>
    simp only [if_true, Handler.applyAll, List.foldl_map]
    rfl
  | false => rfl

/-- A built-in handler writes one attribute or nothing, and records it. -/
theorem Recorded.apply {handler : Handler} (h : handler.BuiltIn) (c : Content) (dest : String)
    (value : Value) :
    Recorded (handler.apply · dest value) c
      { c with attributes := handler.write dest value c.attributes } := by
  cases hv : handler.value? c.attributes dest value with
  | none =>
    obtain ⟨f, hf, hop⟩ := Recorded.refl c
    refine ⟨f, by simpa [Handler.write, hv] using hf, fun sps => ?_⟩
    show handler.apply (c.under sps) dest value = _
    rw [Handler.apply_eq h, Content.attributes_under, hv]
    simpa [Handler.write, hv] using hop sps
  | some written =>
    obtain ⟨f, hf, hop⟩ := Recorded.set c dest written
    refine ⟨f, by simpa [Handler.write, hv] using hf, fun sps => ?_⟩
    show handler.apply (c.under sps) dest value = _
    rw [Handler.apply_eq h, Content.attributes_under, hv]
    simpa [Handler.write, hv] using hop sps

/-- Writing values to destinations by a built-in handler is recorded. -/
theorem Recorded.applyAll {handler : Handler} (h : handler.BuiltIn)
    (writes : List (String × Value)) (c : Content) :
    Recorded (handler.applyAll writes) c
      { c with
        attributes := writes.foldl (fun ns w => handler.write w.1 w.2 ns) c.attributes } := by
  induction writes generalizing c with
  | nil => exact .refl c
  | cons w ws ih => exact (Recorded.apply h c w.1 w.2).trans (ih _)

end TokenGrammar
