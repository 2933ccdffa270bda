import TokenGrammar.Proofs.Lockstep

/-!
# Failed alternatives

A choice whose first rule fails does what the other one does, in whatever tree of rules it stands.
The failed rule leaves its mark on the savepoints around it nevertheless: the tokens are recorded
there. A capture reads this, where its rule matches without consuming a token. So all that a failed
alternative may change is what such a capture records.

* `Context`: a tree of rules with a hole. `Context.Reaches`: with what a run comes to the hole;
* `Context.Idle`: the attributes of the captures around the hole that consume nothing;
* `Context.actAlike_fill`: the trees act alike but for these, by induction on the context. The rules
  behind the hole run side by side (`Rule.Library.twin_sameBut`);
* `Context.run_fill_any`: so they do from every state.
-/

namespace TokenGrammar

/-! ## Tokens behind a run -/

/-- The cursor of the second buffer is not in front of that of the first. If it has moved, it is not
behind the tokens. -/
structure TokenBuffer.Forward (b d : TokenBuffer) : Prop where
  length : d.tokens.length = b.tokens.length
  cursor : b.cursor ≤ d.cursor
  inside : b.cursor < d.cursor → d.cursor ≤ d.tokens.length

namespace TokenBuffer.Forward

variable {b d e : TokenBuffer}

theorem refl (b : TokenBuffer) : b.Forward b :=
  ⟨rfl, Nat.le_refl _, fun h => absurd h (Nat.lt_irrefl _)⟩

theorem trans (h : b.Forward d) (h' : d.Forward e) : b.Forward e where
  length := h'.length.trans h.length
  cursor := Nat.le_trans h.cursor h'.cursor
  inside := fun hmove => by
    have hfirst := h.inside
    have hsecond := h'.inside
    have hlength := h'.length
    have hle := h'.cursor
    omega

theorem of_take {n : Nat} {taken : List String} (h : b.take? n = some (taken, d)) :
    b.Forward d := by
  simp only [take?, Option.ite_none_left_eq_some, Option.some.injEq, Prod.mk.injEq] at h
  obtain ⟨hn, -, rfl⟩ := h
  refine ⟨rfl, Nat.le_add_right _ n, fun hmove => ?_⟩
  simp only [size] at hn hmove ⊢
  omega

theorem replace (b : TokenBuffer) (position : Nat) (token : String) :
    b.Forward (b.replace position token) := by
  refine ⟨?_, Nat.le_of_eq (cursor_replace ..).symm, fun hmove => ?_⟩
  · simp [TokenBuffer.replace]
  · rw [cursor_replace] at hmove
    exact absurd hmove (Nat.lt_irrefl _)

end TokenBuffer.Forward

/-- An orderly run does not move the cursor back. -/
theorem State.Orderly.forward {st st' : State} (h : Orderly st st') :
    st.tokens.Forward st'.tokens := by
  induction h with
  | refl => exact .refl _
  | next step _ ih =>
    obtain ⟨buffer, hbuffer, rfl⟩ := next?_eq_some.mp step
    exact (TokenBuffer.Forward.of_take hbuffer).trans ih
  | @setToken _ mid _ _ _ step _ ih =>
    obtain ⟨_, -, -, hc⟩ := records_setToken step
    have htokens : mid.tokens = _ := congrArg Content.tokens hc
    rw [htokens] at ih
    exact (TokenBuffer.Forward.replace _ _ _).trans ih
  | set _ _ _ ih => exact ih
  | store _ _ _ _ ih => exact ih
  | @scope st inner mid closed st' owner handle released keep opens body closes _ hbody hrest =>
    obtain ⟨-, -, rfl⟩ := save_eq_ok.mp opens
    have hc := congrArg Content.tokens (body.records.release closes).2
    cases keep with
    | true =>
      rw [show closed.tokens = mid.tokens from hc] at hrest
      exact TokenBuffer.Forward.trans hbody hrest
    | false =>
      rw [show closed.tokens = st.tokens from hc] at hrest
      exact hrest

theorem Handler.Confined.orderly {handler : Handler} (h : handler.Confined) : handler.Orderly := by
  obtain ⟨written?, happly⟩ := h
  intro st dest value
  rw [happly]
  cases written? (st.attribute? dest) value with
  | none => exact .refl st
  | some written => exact .set dest written (.refl _)

/-! ## Contents that are the same but for some attributes -/

/-- The attributes are the same but for some. -/
def Namespace.SameBut (names : String → Prop) (ns ns' : Namespace) : Prop :=
  ∀ name, ¬ names name → ns'.get? name = ns.get? name

/-- Attributes that are the same but for some stay so if one is written that may differ, or the same
value is written to one. -/
theorem Namespace.SameBut.put {names : String → Prop} {ns ns' : Namespace} {dest : String}
    {value? value'? : Option Value} (h : ns.SameBut names ns')
    (hvalue : names dest ∨ value'? = value?) :
    (ns.put dest value?).SameBut names (ns'.put dest value'?) := by
  intro name hname
  by_cases heq : name = dest
  · subst heq
    obtain rfl := hvalue.resolve_left hname
    cases value'? with
    | none => exact h name hname
    | some value => simp [Namespace.put]
  · rw [Namespace.get?_put_of_ne _ _ heq, Namespace.get?_put_of_ne _ _ heq]
    exact h name hname

theorem Namespace.SameBut.of_put {names : String → Prop} {ns : Namespace} {dest : String}
    (value? : Option Value) (h : names dest) : ns.SameBut names (ns.put dest value?) := by
  have hsame : ns.SameBut names ns := fun _ _ => rfl
  have hput : (ns.put dest none).SameBut names (ns.put dest value?) := hsame.put (.inl h)
  exact hput

/-- The contents are the same but for some attributes. -/
structure Content.SameBut (names : String → Prop) (c d : Content) : Prop where
  tokens : d.tokens = c.tokens
  scratch : d.scratch = c.scratch
  attributes : c.attributes.SameBut names d.attributes

namespace Content.SameBut

variable {names : String → Prop} {c d e : Content}

theorem refl (c : Content) : c.SameBut names c := ⟨rfl, rfl, fun _ _ => rfl⟩

theorem symm (h : c.SameBut names d) : d.SameBut names c :=
  ⟨h.tokens.symm, h.scratch.symm, fun name hname => (h.attributes name hname).symm⟩

theorem mono {names' : String → Prop} (h : c.SameBut names d)
    (hnames : ∀ name, names name → names' name) : c.SameBut names' d :=
  ⟨h.tokens, h.scratch, fun name hname => h.attributes name (hname ∘ hnames name)⟩

theorem trans (h : c.SameBut names d) (h' : d.SameBut names e) : c.SameBut names e :=
  ⟨h'.tokens.trans h.tokens, h'.scratch.trans h.scratch,
    fun name hname => (h'.attributes name hname).trans (h.attributes name hname)⟩

end Content.SameBut

section SameBut

variable {names : String → Prop} {c c' d d' : Content}

/-- Confined handlers keep attributes the same but for some, whichever they write. -/
theorem Handler.Confined.twins_sameBut {handler : Handler} (h : handler.Confined) (dest : String) :
    handler.Twins (Namespace.SameBut names) dest handler dest := by
  by_cases hdest : names dest
  · exact h.twins_of_put fun _ _ _ _ hns => hns.put (.inl hdest)
  · refine h.twins (fun ns ns' hns => hns dest hdest) fun ns ns' value hns => ?_
    have hput : (ns.put dest (some value)).SameBut names (ns'.put dest (some value)) :=
      hns.put (.inr rfl)
    exact hput

/-- A library rule goes on alike from contents that are the same but for some attributes. -/
theorem Rule.Library.twin_sameBut {rule : Rule} (h : rule.Library Handler.Confined) :
    Rule.Twin (Namespace.SameBut names) rule rule := by
  refine Rule.Each.twin (h.mono fun r hr => ?_)
  cases r with
  | collect collector handler => exact Handler.Confined.twins_sameBut hr collector.dest
  | capture id dests rule format handler =>
    exact fun dest _ => Handler.Confined.twins_sameBut hr dest
  | custom step => exact hr.elim
  | _ => trivial

theorem Step.Twin.acts {step : Step Bool} {free : Owner → Prop}
    (htwin : Step.Twin (Namespace.SameBut names) step step)
    (hacts : ∀ c, ∃ a d, step.Acts free c a d) (h : c.SameBut names c') :
    ∃ a d d', step.Acts free c a d ∧ step.Acts free c' a d' ∧ d.SameBut names d' := by
  obtain ⟨a, d, hd⟩ := hacts c
  obtain ⟨a', d', hd'⟩ := hacts c'
  have hlike : (c.under []).Like (Namespace.SameBut names) (c'.under []) :=
    ⟨h.tokens, h.attributes, h.scratch, .nil, .nil, .nil⟩
  have hrun := htwin _ _ hlike
  rw [hd.run_alone, hd'.run_alone] at hrun
  obtain ⟨_, _, _, ⟨⟩, ⟨⟩, hend⟩ | ⟨_, _, _, herror, -⟩ := hrun
  · exact ⟨a, d, d', hd, hd', hend.tokens, hend.scratch, hend.attributes⟩
  · exact nomatch herror

/-- What a confined handler writes is the same where the contents are, but for some attributes. -/
theorem Handler.Confined.apply_alike {handler : Handler} (h : handler.Confined) (dest : String)
    (value : Value) (hc : c.SameBut names c') :
    ∃ d d', Recorded (handler.apply · dest value) c d ∧
      Recorded (handler.apply · dest value) c' d' ∧ d.SameBut names d' := by
  obtain ⟨written?, hrecorded⟩ := h.exists_recorded
  refine ⟨_, _, hrecorded dest value c, hrecorded dest value c', hc.tokens, hc.scratch,
    hc.attributes.put ?_⟩
  by_cases hdest : names dest
  · exact .inl hdest
  · exact .inr (by rw [hc.attributes dest hdest])

theorem Handler.Confined.applyAll_alike {handler : Handler} (h : handler.Confined)
    (writes : List (String × Value)) (hc : c.SameBut names c') :
    ∃ d d', Recorded (handler.applyAll writes) c d ∧ Recorded (handler.applyAll writes) c' d' ∧
      d.SameBut names d' := by
  induction writes generalizing c c' with
  | nil => exact ⟨c, c', .refl c, .refl c', hc⟩
  | cons w ws ih =>
    obtain ⟨d, d', hd, hd', hfirst⟩ := h.apply_alike w.1 w.2 hc
    obtain ⟨e, e', he, he', hsame⟩ := ih hfirst
    exact ⟨e, e', hd.trans he, hd'.trans he', hsame⟩

/-- What a confined handler writes changes the destination only. -/
theorem Handler.Confined.apply_sameBut {handler : Handler} (h : handler.Confined) {dest : String}
    (value : Value) (hdest : names dest) (c : Content) :
    ∃ d, Recorded (handler.apply · dest value) c d ∧ c.SameBut names d := by
  obtain ⟨written?, hrecorded⟩ := h.exists_recorded
  exact ⟨_, hrecorded dest value c, rfl, rfl, .of_put _ hdest⟩

theorem Handler.Confined.applyAll_sameBut {handler : Handler} (h : handler.Confined)
    {writes : List (String × Value)} (hwrites : ∀ w ∈ writes, names w.1) (c : Content) :
    ∃ d, Recorded (handler.applyAll writes) c d ∧ c.SameBut names d := by
  induction writes generalizing c with
  | nil => exact ⟨c, .refl c, .refl c⟩
  | cons w ws ih =>
    obtain ⟨hw, hws⟩ := List.forall_mem_cons.mp hwrites
    obtain ⟨d, hd, hfirst⟩ := h.apply_sameBut w.2 hw c
    obtain ⟨e, he, hsame⟩ := ih hws d
    exact ⟨e, hd.trans he, hfirst.trans hsame⟩

end SameBut

/-! ## Trees with a hole -/

/-- A tree of rules with a hole. -/
inductive Context where
  | hole
  | not (id : Nat) (inner : Context)
  | all (id : Nat) (before : List Rule) (inner : Context) (after : List Rule)
  | any (id : Nat) (before : List Rule) (inner : Context) (after : List Rule)
  | capture (id : Nat) (dests : List String) (inner : Context) (format : Option RawFormat)
    (handler : Handler)

namespace Context

/-- The tree with a rule in the hole. -/
def fill (rule : Rule) : Context → Rule
  | .hole => rule
  | .not id inner => .not id (inner.fill rule)
  | .all id before inner after => .all id (before ++ inner.fill rule :: after)
  | .any id before inner after => .any id (before ++ inner.fill rule :: after)
  | .capture id dests inner format handler => .capture id dests (inner.fill rule) format handler

/-- A run of the tree from the first content comes to the hole with the second one: what stands
before it in a sequence matches, and what stands before it in a choice does not. -/
inductive Reaches : Context → Content → Content → Prop where
  | hole (c : Content) : Reaches .hole c c
  | not {id : Nat} {inner : Context} {c d : Content} (h : Reaches inner c d) :
      Reaches (.not id inner) c d
  | all {id : Nat} {before after : List Rule} {inner : Context} {c mid d : Content}
      (matches_before : Rule.runAll before (c.under []) = .ok true (mid.under []))
      (h : Reaches inner mid d) : Reaches (.all id before inner after) c d
  | any {id : Nat} {before after : List Rule} {inner : Context} {c d : Content}
      (fails_before : ∀ r ∈ before, r.alone (c.under []) = none) (h : Reaches inner c d) :
      Reaches (.any id before inner after) c d
  | capture {id : Nat} {dests : List String} {format : Option RawFormat} {handler : Handler}
      {inner : Context} {c d : Content} (h : Reaches inner c d) :
      Reaches (.capture id dests inner format handler) c d

/-- The attribute is one of a capture around the hole whose rule, with a rule in the hole, matches
and consumes no token. The trees around the capture match too, so that it is not taken back. -/
inductive Idle (rule : Rule) : Context → Content → String → Prop where
  | here {id : Nat} {dests : List String} {format : Option RawFormat} {handler : Handler}
      {inner : Context} {c d : Content} {name : String} (mem : name ∈ dests)
      (matches_inner : (inner.fill rule).run (c.under []) = .ok true (d.under []))
      (cursor : d.tokens.cursor = c.tokens.cursor) :
      Idle rule (.capture id dests inner format handler) c name
  | capture {id : Nat} {dests : List String} {format : Option RawFormat} {handler : Handler}
      {inner : Context} {c : Content} {name : String} (h : Idle rule inner c name) :
      Idle rule (.capture id dests inner format handler) c name
  | all {id : Nat} {before after : List Rule} {inner : Context} {c mid d : Content} {name : String}
      (matches_before : Rule.runAll before (c.under []) = .ok true (mid.under []))
      (matches_all : Rule.runAll (before ++ inner.fill rule :: after) (c.under []) =
        .ok true (d.under []))
      (h : Idle rule inner mid name) : Idle rule (.all id before inner after) c name
  | any {id : Nat} {before after : List Rule} {inner : Context} {c : Content} {name : String}
      (fails_before : ∀ r ∈ before, r.alone (c.under []) = none) (h : Idle rule inner c name) :
      Idle rule (.any id before inner after) c name

end Context

/-! ## A failed alternative in a context -/

section Fill

variable {names : String → Prop} {rule other : Rule} {k : Nat} {c : Content}

/-- Two steps act alike on a content, but for some attributes. -/
def Step.ActAlike (x y : Step Bool) (free : Owner → Prop) (names : String → Prop) (c : Content) :
    Prop :=
  ∃ a d d', x.Acts free c a d ∧ y.Acts free c a d' ∧ d.SameBut names d'

namespace Step.ActAlike

variable {x y : Step Bool} {free inner : Owner → Prop} {names' : String → Prop} {owner : Owner}
  {id : Nat}

theorem mono (h : x.ActAlike y inner names c) (hsub : ∀ o, free o → inner o)
    (hnames : ∀ name, names name → names' name) : x.ActAlike y free names' c := by
  obtain ⟨a, d, d', hx, hy, hsame⟩ := h
  exact ⟨a, d, d', hx.mono hsub, hy.mono hsub, hsame.mono hnames⟩

/-- Under an attempt, attributes may differ only if the step matches. -/
theorem attempt (h : x.ActAlike y inner names c)
    (hnames : ∀ d : Content, x (c.under []) = .ok true (d.under []) →
      ∀ name, names name → names' name)
    (howner : inner owner) (hsub : ∀ o, free o → inner o ∧ o ≠ owner) :
    Step.ActAlike (State.attempt owner x) (State.attempt owner y) free names' c := by
  obtain ⟨a, d, d', hx, hy, hsame⟩ := h
  refine ⟨a, _, _, hx.attempt howner hsub, hy.attempt howner hsub, ?_⟩
  cases a with
  | true => exact hsame.mono (hnames d hx.run_alone)
  | false => exact .refl c

theorem notStep (h : x.ActAlike y inner names c) (howner : inner (.rule id))
    (hsub : ∀ o, free o → inner o ∧ o ≠ .rule id) :
    Step.ActAlike (Rule.notStep id x) (Rule.notStep id y) free names' c := by
  obtain ⟨a, d, d', hx, hy, -⟩ := h
  exact ⟨!a, c, c, hx.notStep howner hsub, hy.notStep howner hsub, .refl c⟩

/-- The tokens that a capture records are the same where at least one is consumed. Where none is,
all that it writes may differ. -/
theorem captureStep {dests : List String} {format : Option RawFormat} {handler : Handler}
    (h : x.ActAlike y inner names c) (hy : y.Orderly) (hh : handler.Confined)
    (hidle : ∀ d : Content, x (c.under []) = .ok true (d.under []) →
      d.tokens.cursor = c.tokens.cursor → ∀ name ∈ dests, names name)
    (howner : inner (.rule id)) (hsub : ∀ o, free o → inner o ∧ o ≠ .rule id) :
    Step.ActAlike (Rule.captureStep id dests format handler x)
      (Rule.captureStep id dests format handler y) free names c := by
  obtain ⟨a, d, d', hacts, hacts', hsame⟩ := h
  cases a with
  | false =>
    exact ⟨false, c, c, hacts.captureStep_false howner hsub, hacts'.captureStep_false howner hsub,
      .refl c⟩
  | true =>
    obtain ⟨consumed, hconsumed, hwrite⟩ := hacts.captureStep howner hsub
    obtain ⟨consumed', hconsumed', hwrite'⟩ := hacts'.captureStep howner hsub
    have hforward : c.tokens.Forward d'.tokens := (hy _ _ _ hacts'.run_alone).forward
    rw [hsame.tokens] at hforward
    have hcursor := hforward.cursor
    by_cases hmove : c.tokens.cursor < d.tokens.cursor
    · have hend := hforward.inside hmove
      rw [hsame.tokens, ← hconsumed hmove hend] at hconsumed'
      obtain ⟨e, e', he, he', hlike⟩ :=
        hh.applyAll_alike (RawFormat.writes dests format consumed) hsame
      rw [hconsumed' hmove hend] at hwrite'
      exact ⟨true, e, e', hwrite e he, hwrite' e' he', hlike⟩
    · have hdests := hidle d hacts.run_alone (by omega)
      have hnames (consumed : List String) : ∀ w ∈ RawFormat.writes dests format consumed,
          names w.1 := by
        intro w hw
        refine hdests w.1 (by_contra fun hnot => ?_)
        exact RawFormat.ne_of_mem_writes hnot format consumed w hw rfl
      obtain ⟨e, he, hleft⟩ := hh.applyAll_sameBut (hnames consumed) d
      obtain ⟨e', he', hright⟩ := hh.applyAll_sameBut (hnames consumed') d'
      exact ⟨true, e, e', hwrite e he, hwrite' e' he', (hleft.symm.trans hsame).trans hright⟩

end Step.ActAlike

namespace Rule

variable {x y : Rule} {before after : List Rule} {free inner : Owner → Prop} {owner : Owner}

/-- A choice whose first rule fails does what the second one does. -/
theorem actAlike_any (hlibrary : (Rule.any k [other, rule]).Library Handler.Confined)
    (hapart : (Rule.any k [other, rule]).Apart) (hfails : other.alone (c.under []) = none) :
    Step.ActAlike rule.run (Rule.any k [other, rule]).run (Rule.any k [other, rule]).Avoids
      names c := by
  obtain ⟨howner, hsub⟩ := hapart.scope rfl
  have hacts : ∀ r ∈ [other, rule], ∃ a d, (a = false → d = c) ∧
      r.run.Acts (fun o => ∀ q ∈ [other, rule], q.Avoids o) c a d := by
    intro r hr
    have hlocal := (hlibrary.subs r hr).of_handlers fun _ => Handler.Confined.local
    obtain ⟨a, d, hkept, h⟩ := hlocal.exists_acts (hapart.subs r hr) c
    exact ⟨a, d, hkept, h.mono fun o ho => ho r hr⟩
  obtain ⟨b, e, -, hother⟩ := hacts other (by simp)
  obtain ⟨a, d, hkept, hrule⟩ := hacts rule (by simp)
  have hfirst : b = false := by
    rw [Rule.alone, hother.run_alone] at hfails
    cases b with
    | true => cases hfails
    | false => rfl
  subst hfirst
  have hchoice : (Rule.any k [other, rule]).run.Acts (Rule.any k [other, rule]).Avoids c a d := by
    have htried := hother.attempt howner hsub
    have hthen := hrule.attempt howner hsub
    rw [Rule.run, Rule.runAny, Rule.runAny, Rule.runAny]
    cases a with
    | true => exact htried.bind (hthen.bind (.pure true))
    | false =>
      rw [hkept rfl]
      exact htried.bind (hthen.bind (.pure false))
  exact ⟨a, d, d, hrule.mono fun o ho => (hsub o ho).1, hchoice, .refl d⟩

/-- Two sequences that differ in one rule act alike if the rules do, where the ones before them
match. The rules behind them run side by side. -/
theorem actAlike_runAll (hbefore : ∀ r ∈ before, ∀ c, ∃ a d, r.run.Acts free c a d)
    (hafter : ∀ r ∈ after, r.Library Handler.Confined ∧ ∀ c, ∃ a d, r.run.Acts free c a d)
    (h : ∀ mid : Content, runAll before (c.under []) = .ok true (mid.under []) →
      x.run.ActAlike y.run free names mid) :
    Step.ActAlike (runAll (before ++ x :: after)) (runAll (before ++ y :: after)) free names c := by
  obtain ⟨a, mid, hmid⟩ := exists_acts_runAll hbefore c
  rw [runAll_append, runAll_append, runAll, runAll]
  cases a with
  | false => exact ⟨false, mid, mid, hmid.bind (.pure false), hmid.bind (.pure false), .refl mid⟩
  | true =>
    obtain ⟨b, d, d', hx, hy, hsame⟩ := h mid hmid.run_alone
    cases b with
    | false =>
      exact ⟨false, d, d', hmid.bind (hx.bind (.pure false)), hmid.bind (hy.bind (.pure false)),
        hsame⟩
    | true =>
      have htwins : List.Forall₂ (Rule.Twin (Namespace.SameBut names)) after after :=
        List.forall₂_same.mpr fun r hr => (hafter r hr).1.twin_sameBut
      obtain ⟨b, e, e', he, he', hlike⟩ :=
        (Rule.twin_runAll htwins).acts (exists_acts_runAll fun r hr => (hafter r hr).2) hsame
      exact ⟨b, e, e', hmid.bind (hx.bind he), hmid.bind (hy.bind he'), hlike⟩

/-- Two choices that differ in one rule act alike if the rules do, where the ones before them do not
match. -/
theorem actAlike_runAny (hbefore : ∀ r ∈ before, ∀ c, ∃ a d, r.run.Acts inner c a d)
    (hafter : ∀ r ∈ after, ∀ c, ∃ a d, r.run.Acts inner c a d)
    (h : (∀ r ∈ before, r.alone (c.under []) = none) → x.run.ActAlike y.run inner names c)
    (howner : inner owner) (hsub : ∀ o, free o → inner o ∧ o ≠ owner) :
    Step.ActAlike (runAny owner (before ++ x :: after)) (runAny owner (before ++ y :: after))
      free names c := by
  rw [runAny_append, runAny_append, runAny, runAny]
  obtain ⟨hnone, hany⟩ | ⟨d, -, hany⟩ := acts_runAny hbefore howner hsub c
  · obtain ⟨a, d, d', hx, hy, hsame⟩ := h (List.findSome?_eq_none_iff.mp hnone)
    have htried := hx.attempt howner hsub
    have htried' := hy.attempt howner hsub
    cases a with
    | true =>
      exact ⟨true, d, d', hany.bind (htried.bind (.pure true)),
        hany.bind (htried'.bind (.pure true)), hsame⟩
    | false =>
      obtain ⟨-, hrest⟩ | ⟨e, -, hrest⟩ := acts_runAny hafter howner hsub c
      · exact ⟨false, c, c, hany.bind (htried.bind hrest), hany.bind (htried'.bind hrest), .refl c⟩
      · exact ⟨true, e, e, hany.bind (htried.bind hrest), hany.bind (htried'.bind hrest), .refl e⟩
  · exact ⟨true, d, d, hany.bind (.pure true), hany.bind (.pure true), .refl d⟩

end Rule

/-- The rules below a rule act on contents, whatever is free for all of them. -/
theorem Rule.Library.subs_act {y : Rule} (h : y.Library Handler.Confined) (hapart : y.Apart) :
    ∀ r ∈ y.subrules, r.Library Handler.Confined ∧
      ∀ c, ∃ a d, r.run.Acts (fun o => ∀ q ∈ y.subrules, q.Avoids o) c a d :=
  fun r hr => ⟨h.subs r hr,
    (h.of_handlers fun _ => Handler.Confined.local).exists_acts_subs hapart r hr⟩

/-- A tree acts alike with a rule in its hole, and with a choice between a rule that fails there and
this one, but for the captures that consume nothing. -/
theorem Context.actAlike_fill {ctx : Context}
    (hlibrary : (ctx.fill (.any k [other, rule])).Library Handler.Confined)
    (hapart : (ctx.fill (.any k [other, rule])).Apart)
    (hfails : ∀ d, ctx.Reaches c d → other.alone (d.under []) = none) :
    Step.ActAlike (ctx.fill rule).run (ctx.fill (.any k [other, rule])).run
      (ctx.fill (.any k [other, rule])).Avoids (ctx.Idle rule c) c := by
  induction ctx generalizing c with
  | hole => exact Rule.actAlike_any hlibrary hapart (hfails c (.hole c))
  | not id inner ih =>
    obtain ⟨howner, hsub⟩ := hapart.scope rfl
    have hmem : inner.fill (.any k [other, rule]) ∈
        (Rule.not id (inner.fill (.any k [other, rule]))).subrules := List.mem_cons_self
    have hinner := ih (hlibrary.subs _ hmem) (hapart.subs _ hmem) fun d hd => hfails d (.not hd)
    exact (hinner.mono (fun o ho => ho _ hmem) fun _ hname => hname).notStep howner hsub
  | all id before inner after ih =>
    obtain ⟨howner, hsub⟩ := hapart.scope rfl
    have hmem : inner.fill (.any k [other, rule]) ∈
        before ++ inner.fill (.any k [other, rule]) :: after := by simp
    have hrows := hlibrary.subs_act hapart
    have hinner (mid : Content) (hmid : Rule.runAll before (c.under []) = .ok true (mid.under [])) :
        Step.ActAlike (inner.fill rule).run (inner.fill (.any k [other, rule])).run
          (fun o => ∀ q ∈ before ++ inner.fill (.any k [other, rule]) :: after, q.Avoids o)
          (fun name => ∃ mid : Content,
            Rule.runAll before (c.under []) = .ok true (mid.under []) ∧ inner.Idle rule mid name)
          mid :=
      (ih (hlibrary.subs _ hmem) (hapart.subs _ hmem) fun d hd => hfails d (.all hmid hd)).mono
        (fun o ho => ho _ hmem) fun name hname => ⟨mid, hmid, hname⟩
    have hall := Rule.actAlike_runAll (fun r hr => (hrows r (List.mem_append_left _ hr)).2)
      (fun r hr => hrows r (List.mem_append_right _ (List.mem_cons_of_mem _ hr))) hinner
    refine hall.attempt (fun d hmatch name hname => ?_) howner hsub
    obtain ⟨mid, hmid, hidle⟩ := hname
    exact .all hmid hmatch hidle
  | any id before inner after ih =>
    obtain ⟨howner, hsub⟩ := hapart.scope rfl
    have hmem : inner.fill (.any k [other, rule]) ∈
        before ++ inner.fill (.any k [other, rule]) :: after := by simp
    have hrows := hlibrary.subs_act hapart
    refine Rule.actAlike_runAny (fun r hr => (hrows r (List.mem_append_left _ hr)).2)
      (fun r hr => (hrows r (List.mem_append_right _ (List.mem_cons_of_mem _ hr))).2)
      (fun hbefore => ?_) howner hsub
    have hinner := ih (hlibrary.subs _ hmem) (hapart.subs _ hmem)
      fun d hd => hfails d (.any hbefore hd)
    exact hinner.mono (fun o ho => ho _ hmem) fun _ => .any hbefore
  | capture id dests inner format handler ih =>
    obtain ⟨howner, hsub⟩ := hapart.scope rfl
    have hmem : inner.fill (.any k [other, rule]) ∈ (Rule.capture id dests
        (inner.fill (.any k [other, rule])) format handler).subrules := List.mem_cons_self
    have horderly : (inner.fill (.any k [other, rule])).run.Orderly := Rule.Each.orderly
      ((hlibrary.subs _ hmem).orderlyRoot fun _ => Handler.Confined.orderly)
    have hinner := ih (hlibrary.subs _ hmem) (hapart.subs _ hmem) fun d hd => hfails d (.capture hd)
    refine (hinner.mono (fun o ho => ho _ hmem) fun _ => .capture).captureStep horderly
      hlibrary.root (fun d hrun hcursor name hname => ?_) howner hsub
    exact .here hname hrun hcursor

/-- A failed alternative in a tree of library rules changes neither the verdict nor the tokens nor
the kept values, and no attribute but those of captures that consume nothing. -/
theorem Context.run_fill_any {ctx : Context} {st : State}
    (hlibrary : (ctx.fill (.any k [other, rule])).Library Handler.Confined)
    (hapart : (ctx.fill (.any k [other, rule])).Apart)
    (hfree : ∀ sp ∈ st.savepoints, (ctx.fill (.any k [other, rule])).Avoids sp.owner)
    (hfails : ∀ d, ctx.Reaches st.content d → other.alone (d.under []) = none) :
    ∃ matched st₁ st₂, (ctx.fill rule).run st = .ok matched st₁ ∧
      (ctx.fill (.any k [other, rule])).run st = .ok matched st₂ ∧
      st₂.tokens = st₁.tokens ∧ st₂.scratch = st₁.scratch ∧
      ∀ name, ¬ ctx.Idle rule st.content name → st₂.attribute? name = st₁.attribute? name := by
  obtain ⟨matched, d, d', ⟨f, -, hrun⟩, ⟨g, -, hrun'⟩, hsame⟩ :=
    ctx.actAlike_fill hlibrary hapart hfails
  have hrule := hrun st.savepoints hfree
  have hchoice := hrun' st.savepoints hfree
  rw [State.under_content] at hrule hchoice
  exact ⟨matched, _, _, hrule, hchoice, hsame.tokens, hsame.scratch, hsame.attributes⟩

end Fill

/-- Consumes a token and refuses then. -/
def Rule.takeAndRefuse (id : Nat) : Rule := .all id [.skip 1, .check fun _ => false]

theorem Rule.alone_takeAndRefuse (id : Nat) (d : Content) :
    (takeAndRefuse id).alone (d.under []) = none := by
  have hrefuse (e : Content) : (Rule.check fun _ => false).run.Acts (fun _ => True) e false e := by
    have hnext : e.tokens.head?.any (fun _ => false) = false := by
      cases e.tokens.head? <;> rfl
    have hacts : (onNext fun _ => false).Acts (fun _ => True) e _ e := acts_onNext _
    rw [hnext] at hacts
    rwa [run]
  have hrow : ∃ e, (runAll [.skip 1, .check fun _ => false]).Acts (fun _ => True) d false e := by
    rw [runAll, runAll, runAll]
    cases htake : d.tokens.take? 1 with
    | none => exact ⟨d, (acts_skip_none htake).bind (.pure false)⟩
    | some taken => exact ⟨_, (acts_skip_some htake).bind ((hrefuse _).bind (.pure false))⟩
  obtain ⟨e, he⟩ := hrow
  have hattempt : (run (takeAndRefuse id)).Acts (· ≠ .rule id) d false d := by
    rw [takeAndRefuse, run]
    exact he.attempt trivial fun o ho => ⟨trivial, ho⟩
  rw [alone, hattempt.run_alone]

/-- A capture around the hole. -/
def Context.recorder : Context := .capture 1 ["raw"] .hole none .appendOrExtend

/-- What is captured when a token is consumed is the same. -/
theorem Context.run_fill_any_recorder :
    ∃ matched st₁ st₂,
      (recorder.fill (.skip 1)).run (.start ["a", "b"] none) = .ok matched st₁ ∧
      (recorder.fill (.any 2 [.takeAndRefuse 3, .skip 1])).run (.start ["a", "b"] none) =
        .ok matched st₂ ∧
      st₂.tokens = st₁.tokens ∧ st₂.scratch = st₁.scratch ∧
      st₂.attribute? "raw" = st₁.attribute? "raw" := by
  have hhandler : Handler.appendOrExtend.Confined := Handler.confined_of_builtIn trivial
  have hlibrary :
      (recorder.fill (.any 2 [.takeAndRefuse 3, .skip 1])).Library Handler.Confined := by
    simpa [recorder, fill, Rule.takeAndRefuse, Rule.Library, Rule.OfLibrary] using hhandler
  have hapart : (recorder.fill (.any 2 [.takeAndRefuse 3, .skip 1])).Apart := by
    simp [recorder, fill, Rule.takeAndRefuse, Rule.Apart, Rule.Avoids, Rule.owner?, Rule.subrules]
  have hfree : ∀ sp ∈ (State.start ["a", "b"] none).savepoints,
      (recorder.fill (.any 2 [.takeAndRefuse 3, .skip 1])).Avoids sp.owner := List.forall_mem_nil _
  obtain ⟨matched, st₁, st₂, hrule, hchoice, htokens, hscratch, hattributes⟩ :=
    run_fill_any hlibrary hapart hfree fun d _ => Rule.alone_takeAndRefuse 3 d
  refine ⟨matched, st₁, st₂, hrule, hchoice, htokens, hscratch, hattributes "raw" ?_⟩
  rintro (⟨-, hrun, hcursor⟩ | h)
  · obtain ⟨-, hone⟩ := EStateM.Result.ok.inj hrun
    have hzero : 1 = 0 := (congrArg (·.tokens.cursor) hone).trans hcursor
    exact absurd hzero Nat.one_ne_zero
  · cases h

/-- The tokens that are recorded do tell, where none is consumed, whether an alternative was tried
and taken back. -/
theorem Context.not_forall_run_fill_any :
    ¬ ∀ (ctx : Context) (k : Nat) (other rule : Rule) (st : State),
      (ctx.fill (.any k [other, rule])).Library Handler.BuiltIn →
      (ctx.fill (.any k [other, rule])).Apart → st.savepoints = [] →
      (∀ d : Content, other.alone (d.under []) = none) →
      ∃ matched st₁ st₂, (ctx.fill rule).run st = .ok matched st₁ ∧
        (ctx.fill (.any k [other, rule])).run st = .ok matched st₂ ∧
        st₂.tokens = st₁.tokens ∧ st₂.scratch = st₁.scratch ∧
        ∀ name, st₂.attribute? name = st₁.attribute? name := by
  intro h
  obtain ⟨matched, st₁, st₂, hrule, hchoice, -, -, hattributes⟩ :=
    h recorder 2 (.takeAndRefuse 3) (.check fun _ => true) (.start ["a", "b"] none)
      (by simp [recorder, fill, Rule.takeAndRefuse, Rule.Library, Rule.OfLibrary, Handler.BuiltIn])
      (by simp [recorder, fill, Rule.takeAndRefuse, Rule.Apart, Rule.Avoids, Rule.owner?,
        Rule.subrules])
      rfl (Rule.alone_takeAndRefuse 3)
  have hnothing : ((recorder.fill (.check fun _ => true)).alone (.start ["a", "b"] none)).map
      (·.attribute? "raw") = some none := by
    decide +kernel
  have hleading : ((recorder.fill (.any 2 [.takeAndRefuse 3, .check fun _ => true])).alone
      (.start ["a", "b"] none)).map (·.attribute? "raw") = some (some (.list [.str "a"])) := by
    decide +kernel
  rw [Rule.alone, hrule] at hnothing
  rw [Rule.alone, hchoice] at hleading
  cases matched with
  | false => cases hnothing
  | true =>
    simp only [Option.map_some, Option.some.injEq] at hnothing hleading
    rw [hattributes, hnothing] at hleading
    cases hleading

end TokenGrammar
