import Mathlib.Data.List.Induction
import TokenGrammar.Proofs.Conservation

/-!
# What an attribute adds up to

The value of an attribute that one rule of a parser stores values in. What a rule did before it was
taken back, and a match that is not kept, leaves nothing behind. So the attribute is the row of the
lists of values that the kept matches of the rule took for it, stored one after the other.

* `Handler.store`: what stands at a destination after a list of values is stored there;
* `Rule.collected`: the lists of values that a rule takes for a destination when it matches, by
  recursion on the tree;
* `Rule.Library.alone_all` and its like: rules that are run alone, in terms of the rules below them;
* `Rule.Each.folds`: a match of a tree stores the lists that it takes, and nothing else, by
  induction on the tree;
* `TokenParser.kept`: the states from which a parse took a rule and kept its match.
  `TokenParser.Sound.attribute_consumeAll`: the attribute after any number of rounds, by induction
  on them.
-/

namespace TokenGrammar

/-! ## Storing lists of values -/

namespace Handler

/-- What stands at the destination of a built-in handler after it has stored a list of values. -/
def store (handler : Handler) (old : Option Value) (values : List Value) : Option Value :=
  let items := (old.map Value.toList).getD []
  match handler with
  | .setFirst => values.head?.or old
  | .set => some (.list values)
  | .append => some (.list (items ++ [.list values]))
  | .extend => some (.list (items ++ values))
  | .appendOrExtend => some (.list (items ++ spread (.list values)))
  | .custom _ => old

theorem local_keeps_of_builtIn {handler : Handler} (h : handler.BuiltIn) (dest : String) :
    handler.Local ∧ handler.Keeps dest :=
  ⟨local_of_builtIn h, keeps_of_builtIn h dest⟩

theorem get?_write_list (handler : Handler) (dest : String) (values : List Value)
    (ns : Namespace) :
    (handler.write dest (.list values) ns).get? dest = handler.store (ns.get? dest) values := by
  rw [get?_write_self]
  cases handler <;> simp [value?, store, Value.toList]

/-- A handler that adds to what is there adds up what it makes of the lists. -/
theorem foldl_store_of_adds {handler : Handler} {add : List Value → List Value}
    (h : ∀ old values, handler.store old values =
      some (.list ((old.map Value.toList).getD [] ++ add values)))
    (taken : List (List Value)) :
    taken.foldl handler.store none =
      if taken = [] then none else some (.list (taken.flatMap add)) := by
  induction taken using List.reverseRecOn with
  | nil => rfl
  | append_singleton front last ih =>
    rw [if_neg (by simp), List.foldl_append, List.foldl_cons, List.foldl_nil, h, ih,
      List.flatMap_append, List.flatMap_singleton]
    cases front <;> rfl

theorem foldl_store_extend (taken : List (List Value)) :
    taken.foldl extend.store none =
      if taken = [] then none else some (.list taken.flatten) := by
  have hadds : ∀ old values, extend.store old values =
      some (.list ((old.map Value.toList).getD [] ++ id values)) := fun _ _ => rfl
  rw [foldl_store_of_adds hadds, List.flatMap_id]

theorem foldl_store_append (taken : List (List Value)) :
    taken.foldl append.store none =
      if taken = [] then none else some (.list (taken.map .list)) := by
  have hadds : ∀ old values, append.store old values =
      some (.list ((old.map Value.toList).getD [] ++ [.list values])) := fun _ _ => rfl
  rw [foldl_store_of_adds hadds, List.map_eq_flatMap]

/-- A handler that writes the list keeps the last one. -/
theorem foldl_store_set (taken : List (List Value)) :
    taken.foldl set.store none = taken.getLast?.map .list := by
  induction taken using List.reverseRecOn with
  | nil => rfl
  | append_singleton front last _ =>
    rw [List.foldl_append, List.getLast?_concat]
    rfl

/-- A handler that writes the first value writes that of the last list, where all of the lists have
one or none has. -/
theorem foldl_store_setFirst {taken : List (List Value)}
    (h : (∀ values ∈ taken, values ≠ []) ∨ ∀ values ∈ taken, values = []) :
    taken.foldl setFirst.store none = taken.getLast?.bind List.head? := by
  induction taken using List.reverseRecOn with
  | nil => rfl
  | append_singleton front last ih =>
    have hfront : (∀ values ∈ front, values ≠ []) ∨ ∀ values ∈ front, values = [] :=
      h.imp (fun h values hmem => h values (List.mem_append_left _ hmem))
        fun h values hmem => h values (List.mem_append_left _ hmem)
    have hlast : last ∈ front ++ [last] := List.mem_append_right _ (List.mem_singleton_self last)
    rw [List.foldl_append, List.foldl_cons, List.foldl_nil, ih hfront, List.getLast?_concat,
      Option.bind_some, store]
    obtain hsome | hnone := h
    · obtain ⟨value, rest, rfl⟩ := List.exists_cons_of_ne_nil (hsome last hlast)
      rfl
    · obtain rfl := hnone last hlast
      rw [List.head?_nil, Option.none_or]
      cases hbefore : front.getLast? with
      | none => rfl
      | some before =>
        obtain rfl := hnone before (List.mem_append_left _ (List.mem_of_getLast? hbefore))
        rfl

end Handler

/-! ## Values that a match takes -/

namespace Collector

variable {collector : Collector} {st : State} {values : List Value}

/-- The list of values that a collector takes, if it matches. -/
def taken? (collector : Collector) (st : State) : Option (List Value) :=
  match collector.collect st with
  | .ok values? _ => values?
  | .error _ _ => none

/-- It is what is stored for the values of the leading tokens, where these are as many as the lower
bound asks for. -/
theorem taken?_eq_some (h : collector.taken? st = some values) :
    collector.enough st.tokens.remaining = true ∧
      values = collector.stored (collector.gather 0 st.tokens.remaining) := by
  rw [taken?] at h
  split at h
  · rename_i values? mid hrun
    obtain ⟨-, -, rfl⟩ := collect_eq_ok.mp hrun
    split at h
    · rename_i henough
      exact ⟨henough, (Option.some.inj h).symm⟩
    · exact nomatch h
  · exact nomatch h

end Collector

namespace Rule

mutual

/-- The lists of values that the collectors of a tree take for a destination when it is run alone
and matches, in order. Whatever a negated rule does is taken back, and of a choice the first rule
that matches is left. -/
def collected (dest : String) : Rule → State → List (List Value)
  | .all _ rules, st => collectedAll dest rules st
  | .any _ rules, st => collectedAny dest rules st
  | .collect collector _, st =>
    if collector.dest = dest then (collector.taken? st).toList else []
  | .capture _ _ rule _ _, st => rule.collected dest st
  | _, _ => []

/-- The lists of values that rules take one after the other. -/
def collectedAll (dest : String) : List Rule → State → List (List Value)
  | [], _ => []
  | rule :: rules, st =>
    match rule.alone st with
    | some mid => rule.collected dest st ++ collectedAll dest rules mid
    | none => []

/-- The lists of values that the first rule takes that matches. -/
def collectedAny (dest : String) : List Rule → State → List (List Value)
  | [], _ => []
  | rule :: rules, st =>
    if (rule.alone st).isSome then rule.collected dest st else collectedAny dest rules st

end

/-- The state after rules that are run one after the other, if all of them match. -/
def aloneAll (rules : List Rule) (st : State) : Option State :=
  rules.foldlM (fun st rule => rule.alone st) st

variable {dest : String} {rule : Rule} {rules : List Rule} {st st' mid : State}

@[simp]
theorem aloneAll_nil (st : State) : aloneAll [] st = some st := rfl

@[simp]
theorem aloneAll_cons (rule : Rule) (rules : List Rule) (st : State) :
    aloneAll (rule :: rules) st = (rule.alone st).bind (aloneAll rules) := rfl

theorem collectedAll_cons_of_alone (h : rule.alone st = some mid) (rules : List Rule) :
    collectedAll dest (rule :: rules) st =
      rule.collected dest st ++ collectedAll dest rules mid := by
  rw [collectedAll, h]

theorem collectedAny_of_firstMatch (dest : String) (h : firstMatch rules st = some st') :
    ∃ rule ∈ rules, rule.alone st = some st' ∧
      collectedAny dest rules st = rule.collected dest st := by
  induction rules with
  | nil => cases h
  | cons rule rules ih =>
    rw [firstMatch, List.findSome?_cons] at h
    cases halone : rule.alone st with
    | some mid =>
      rw [halone] at h
      obtain rfl := Option.some.inj h
      exact ⟨rule, List.mem_cons_self, halone, by rw [collectedAny, halone]; rfl⟩
    | none =>
      rw [halone] at h
      obtain ⟨r, hr, hmatch, hcollected⟩ := ih h
      refine ⟨r, List.mem_cons_of_mem _ hr, hmatch, ?_⟩
      rw [collectedAny, halone]
      exact hcollected

/-- What holds of all the lists that the collectors of a tree may take for the destination. -/
def Gives (P : List Value → Prop) (dest : String) : Rule → Prop
  | .collect collector _ => collector.dest = dest → ∀ tokens,
      collector.enough tokens = true → P (collector.stored (collector.gather 0 tokens))
  | _ => True

theorem Gives.mono {P Q : List Value → Prop} (hPQ : ∀ values, P values → Q values)
    (h : Gives P dest rule) : Gives Q dest rule := by
  cases rule with
  | collect collector handler => exact fun hdest tokens henough => hPQ _ (h hdest tokens henough)
  | _ => trivial

theorem forall_collectedAll {P : List Value → Prop}
    (h : ∀ r ∈ rules, ∀ st, ∀ values ∈ r.collected dest st, P values) (st : State) :
    ∀ values ∈ collectedAll dest rules st, P values := by
  induction rules generalizing st with
  | nil => exact fun values hvalues => nomatch hvalues
  | cons rule rules ih =>
    obtain ⟨hrule, hrules⟩ := List.forall_mem_cons.mp h
    rw [collectedAll]
    split
    · exact List.forall_mem_append.mpr ⟨hrule st, ih hrules _⟩
    · exact fun values hvalues => nomatch hvalues

theorem forall_collectedAny {P : List Value → Prop}
    (h : ∀ r ∈ rules, ∀ st, ∀ values ∈ r.collected dest st, P values) (st : State) :
    ∀ values ∈ collectedAny dest rules st, P values := by
  induction rules with
  | nil => exact fun values hvalues => nomatch hvalues
  | cons rule rules ih =>
    obtain ⟨hrule, hrules⟩ := List.forall_mem_cons.mp h
    rw [collectedAny]
    split
    · exact hrule st
    · exact ih hrules

/-- What holds of the lists that each collector of a tree may take holds of those that the tree
takes. -/
theorem Each.forall_collected {P : List Value → Prop} (h : rule.Each (Gives P dest)) (st : State) :
    ∀ values ∈ rule.collected dest st, P values := by
  induction h generalizing st with
  | @intro rule root _ ih =>
    cases rule with
    | all id rules =>
      rw [collected]
      exact forall_collectedAll (fun r hr st => ih r hr st) st
    | any id rules =>
      rw [collected]
      exact forall_collectedAny (fun r hr st => ih r hr st) st
    | capture id dests rule format handler =>
      rw [collected]
      exact ih rule List.mem_cons_self st
    | collect collector handler =>
      rw [collected]
      split
      · rename_i hdest
        intro values hvalues
        obtain ⟨henough, rfl⟩ := Collector.taken?_eq_some (Option.mem_toList.mp hvalues)
        exact root hdest _ henough
      · exact fun values hvalues => nomatch hvalues
    | _ =>
      simp only [collected]
      exact fun values hvalues => nomatch hvalues

/-- A tree that does not write the destination takes nothing for it. -/
theorem Spares.collected_eq (h : rule.Spares dest) (st : State) : rule.collected dest st = [] := by
  have hnone : rule.Each (Gives (fun _ => False) dest) := by
    refine Each.mono (fun r hr => ?_) h
    cases r with
    | collect collector handler =>
      exact fun heq => absurd (List.mem_singleton.mpr heq.symm) hr
    | _ => trivial
  exact List.eq_nil_iff_forall_not_mem.mpr (hnone.forall_collected st)

/-! ## Rules that are run alone -/

variable {id : Nat}

/-- Rules that are run one after the other, whether or not all of them match. -/
theorem aloneAll_eq (rules : List Rule) (st : State) :
    aloneAll rules st =
      match runAll rules st with
      | .ok true st' => some st'
      | _ => none := by
  induction rules generalizing st with
  | nil =>
    rw [runAll]
    rfl
  | cons rule rules ih =>
    rw [aloneAll_cons, runAll, Step.bind_apply, alone]
    cases hrun : rule.run st with
    | error e mid => rfl
    | ok matched mid =>
      cases matched with
      | true => exact ih mid
      | false => rfl

/-- A tree that is run alone where no savepoint is open leaves none open. -/
theorem Library.savepoints_of_alone (h : rule.Library Handler.Local) (hapart : rule.Apart)
    (hst : st.savepoints = []) (halone : rule.alone st = some st') : st'.savepoints = [] := by
  obtain ⟨c, rfl⟩ := State.exists_eq_under hst
  obtain ⟨a, d, hacts⟩ := h.acts hapart c
  rw [alone, hacts.run_alone] at halone
  cases a with
  | true =>
    obtain rfl := Option.some.inj halone
    rfl
  | false => cases halone

/-- A sequence that is run alone does what its rules do alone, one after the other. -/
theorem Library.alone_all (h : (Rule.all id rules).Library Handler.Local)
    (hapart : (Rule.all id rules).Apart) (hst : st.savepoints = []) :
    (Rule.all id rules).alone st = aloneAll rules st := by
  obtain ⟨c, rfl⟩ := State.exists_eq_under hst
  obtain ⟨howner, hsub⟩ := hapart.scope rfl
  obtain ⟨a, d, hacts⟩ := exists_acts_runAll (h.exists_acts_subs hapart) c
  have hrun : (Rule.all id rules).run.Acts (Rule.all id rules).Avoids c a (if a then d else c) := by
    rw [run]
    exact hacts.attempt howner hsub
  rw [alone, hrun.run_alone, aloneAll_eq, show runAll rules _ = _ from hacts.run_alone]
  cases a <;> rfl

/-- A choice that is run alone does what the first rule does that matches alone. -/
theorem Library.alone_any (h : (Rule.any id rules).Library Handler.Local)
    (hapart : (Rule.any id rules).Apart) (hst : st.savepoints = []) :
    (Rule.any id rules).alone st = firstMatch rules st := by
  obtain ⟨c, rfl⟩ := State.exists_eq_under hst
  obtain ⟨howner, hsub⟩ := hapart.scope rfl
  have hsubs : ∀ r ∈ rules, ∀ c, ∃ a d, r.run.Acts (fun o => ∀ q ∈ rules, q.Avoids o) c a d :=
    h.exists_acts_subs hapart
  rw [alone, run]
  obtain ⟨hnone, hany⟩ | ⟨d, hsome, hany⟩ := acts_runAny hsubs howner hsub c
  · rw [hany.run_alone, hnone]
  · rw [hany.run_alone, hsome]

/-- A capture that is run alone matches just if its rule does, and then it records the tokens. -/
theorem Library.alone_capture {dests : List String} {format : Option RawFormat}
    {handler : Handler} (h : (Rule.capture id dests rule format handler).Library Handler.Local)
    (hapart : (Rule.capture id dests rule format handler).Apart) (hst : st.savepoints = []) :
    (rule.alone st = none ∧ (Rule.capture id dests rule format handler).alone st = none) ∨
      ∃ mid consumed, rule.alone st = some mid ∧
        (Rule.capture id dests rule format handler).alone st =
          some (handler.applyAll (RawFormat.writes dests format consumed) mid) := by
  obtain ⟨c, rfl⟩ := State.exists_eq_under hst
  obtain ⟨howner, hsub⟩ := hapart.scope rfl
  obtain ⟨a, d, hacts⟩ := h.exists_acts_subs hapart rule List.mem_cons_self c
  rw [alone, alone, run, hacts.run_alone]
  cases a with
  | false =>
    have hrun : (captureStep id dests format handler rule.run).Acts _ c false c :=
      hacts.captureStep_false howner hsub
    exact .inl ⟨rfl, by rw [hrun.run_alone]⟩
  | true =>
    obtain ⟨consumed, -, hwrite⟩ := hacts.captureStep howner hsub
    obtain ⟨e, he⟩ := Handler.Local.applyAll h.root (RawFormat.writes dests format consumed) d
    have hrun : (captureStep id dests format handler rule.run).Acts _ c true e := hwrite e he
    obtain ⟨f, -, hop⟩ := he
    refine .inr ⟨d.under [], consumed, rfl, ?_⟩
    rw [hrun.run_alone, hop []]
    rfl

/-- A negated rule changes nothing. -/
theorem Library.alone_not (h : (Rule.not id rule).Library Handler.Local)
    (hapart : (Rule.not id rule).Apart) (hst : st.savepoints = [])
    (halone : (Rule.not id rule).alone st = some st') : st' = st := by
  obtain ⟨c, rfl⟩ := State.exists_eq_under hst
  obtain ⟨howner, hsub⟩ := hapart.scope rfl
  obtain ⟨a, d, hacts⟩ := h.exists_acts_subs hapart rule List.mem_cons_self c
  rw [alone, run, (hacts.notStep howner hsub).run_alone] at halone
  cases a with
  | true => cases halone
  | false => exact (Option.some.inj halone).symm

/-! ## What a match stores -/

/-- What a rule does by itself for a destination: a collector stores by the handler, and captures
record elsewhere. -/
def StoresBy (handler : Handler) (dest : String) : Rule → Prop
  | .collect collector own => collector.dest = dest → own = handler
  | .capture _ dests _ _ _ => dest ∉ dests
  | _ => True

/-- A match stores at the destination the lists of values that it takes for it, one after the other,
and nothing else. -/
def Folds (handler : Handler) (dest : String) (rule : Rule) : Prop :=
  ∀ st st', st.savepoints = [] → rule.alone st = some st' →
    st'.savepoints = [] ∧
      st'.attribute? dest = (rule.collected dest st).foldl handler.store (st.attribute? dest)

variable {handler : Handler}

theorem foldl_collectedAll (h : ∀ r ∈ rules, r.Folds handler dest) (hst : st.savepoints = [])
    (hall : aloneAll rules st = some st') :
    st'.attribute? dest =
      (collectedAll dest rules st).foldl handler.store (st.attribute? dest) := by
  induction rules generalizing st with
  | nil =>
    obtain rfl := Option.some.inj hall
    rfl
  | cons rule rules ih =>
    obtain ⟨hrule, hrules⟩ := List.forall_mem_cons.mp h
    obtain ⟨mid, halone, hrest⟩ := Option.bind_eq_some_iff.mp hall
    obtain ⟨hmid, hstored⟩ := hrule st mid hst halone
    rw [collectedAll_cons_of_alone halone, List.foldl_append, ← hstored]
    exact ih hrules hmid hrest

/-- A collector that matches alone stores the list of values that it takes. -/
theorem apply_of_alone_collect {collector : Collector} {own : Handler}
    (halone : (Rule.collect collector own).alone st = some st') :
    ∃ values mid, collector.taken? st = some values ∧
      mid.attributes = st.attributes ∧ st' = own.apply mid collector.dest (.list values) := by
  have hrun := TokenParser.run_of_alone halone
  rw [run] at hrun
  obtain ⟨-, mid, hmid, rfl⟩ := collectStep_eq_true hrun
  rw [collectStep, Step.bind_eq_ok] at hrun
  obtain ⟨values?, after, hcollect, hrun⟩ := hrun
  cases values? with
  | none => cases (Step.pure_eq_ok.mp hrun).1
  | some values =>
    have hvalues : collector.taken? st = some values := by
      rw [Collector.taken?, hcollect]
    obtain ⟨-, heq⟩ := Collector.taken?_eq_some hvalues
    exact ⟨values, mid, hvalues, congrArg Content.attributes hmid, by rw [heq]⟩

/-- A collector stores what it takes for its destination, and nothing elsewhere. -/
theorem folds_collect (hb : handler.BuiltIn) {collector : Collector} {own : Handler}
    (hown : collector.dest = dest → own = handler) (hkeeps : own.Keeps dest)
    (halone : (Rule.collect collector own).alone st = some st') :
    st'.attribute? dest = ((Rule.collect collector own).collected dest st).foldl handler.store
      (st.attribute? dest) := by
  obtain ⟨values, mid, hvalues, hmid, rfl⟩ := apply_of_alone_collect halone
  have hsame : mid.attribute? dest = st.attribute? dest := by
    rw [State.attribute?, hmid, ← State.attribute?]
  rw [collected, hvalues]
  split
  · rename_i hdest
    obtain rfl := hown hdest
    subst hdest
    have hwritten := congrArg (·.attributes.get? collector.dest)
      (Handler.content_apply hb mid collector.dest (.list values))
    refine hwritten.trans ?_
    show (own.write collector.dest (.list values) mid.attributes).get? collector.dest = _
    rw [Handler.get?_write_list, ← State.attribute?, hsame]
    rfl
  · rename_i hdest
    rw [hkeeps mid collector.dest (.list values) (Ne.symm hdest), hsame]
    rfl

/-- A library rule without a savepoint of its own changes what it changes by itself. -/
theorem ensures_effect {ok : Handler → Prop} (h : OfLibrary ok rule) (howner : rule.owner? = none) :
    rule.run.Ensures rule.Effect := by
  cases rule with
  | skip n => exact ensures_skip n
  | check p =>
    rw [run]
    exact ensures_onNext p
  | isIn words fold =>
    rw [run]
    exact ensures_onNext _
  | isEmpty =>
    rw [run]
    exact ensures_onNext _
  | replace f =>
    rw [run]
    exact ensures_replaceNext f
  | removePrefix prefixes fold =>
    rw [run]
    exact ensures_replaceNext _
  | limit id most =>
    rw [run]
    exact ensures_limitStep id most
  | custom step => exact h.elim
  | _ => cases howner

/-- A match of a tree stores at a destination the lists of values that it takes for it, one after
the other, and nothing else, if its collectors store there by one handler and its captures record
elsewhere. -/
theorem Each.folds (hb : handler.BuiltIn)
    (hlibrary : rule.Library fun own => own.Local ∧ own.Keeps dest) (hapart : rule.Apart)
    (h : rule.Each (StoresBy handler dest)) : rule.Folds handler dest := by
  induction h with
  | @intro rule root _ ih =>
    intro st st' hst halone
    have hlocal : rule.Library Handler.Local := hlibrary.of_handlers fun _ => And.left
    have hsubs : ∀ r ∈ rule.subrules, r.Folds handler dest :=
      fun r hr => ih r hr (hlibrary.subs r hr) (hapart.subs r hr)
    refine ⟨hlocal.savepoints_of_alone hapart hst halone, ?_⟩
    cases rule with
    | all id rules =>
      rw [hlocal.alone_all hapart hst] at halone
      rw [collected]
      exact foldl_collectedAll hsubs hst halone
    | any id rules =>
      rw [hlocal.alone_any hapart hst] at halone
      obtain ⟨rule, hrule, hmatch, heq⟩ := collectedAny_of_firstMatch dest halone
      rw [collected, heq]
      exact (hsubs rule hrule st st' hst hmatch).2
    | collect collector own => exact folds_collect hb root hlibrary.root.2 halone
    | capture id dests rule format own =>
      obtain ⟨-, hnone⟩ | ⟨mid, consumed, hmatch, hsome⟩ := hlocal.alone_capture hapart hst
      · exact nomatch hnone.symm.trans halone
      · obtain rfl := Option.some.inj (hsome.symm.trans halone)
        have hkept := hlibrary.root.2.applyAll
          (RawFormat.ne_of_mem_writes root format consumed) mid
        rw [hkept, collected]
        exact (hsubs rule List.mem_cons_self st mid hst hmatch).2
    | not id rule =>
      obtain rfl := hlocal.alone_not hapart hst halone
      rfl
    | custom step => exact hlocal.root.elim
    | _ =>
      have heffect := ensures_effect hlocal.root rfl st st' (TokenParser.run_of_alone halone)
      exact heffect.attribute_eq List.not_mem_nil

/-- A tree that does not write a destination leaves it. -/
theorem Library.attribute?_of_alone (hlibrary : rule.Library fun own => own.Local ∧ own.Keeps dest)
    (hapart : rule.Apart) (hspares : rule.Spares dest) (hst : st.savepoints = [])
    (halone : rule.alone st = some st') : st'.attribute? dest = st.attribute? dest := by
  have hstores : rule.Each (StoresBy .set dest) := by
    refine Each.mono (fun r hr => ?_) hspares
    cases r with
    | collect collector own => exact fun heq => absurd (List.mem_singleton.mpr heq.symm) hr
    | capture id dests rule format own => exact hr
    | _ => trivial
  have hfolds : rule.Folds .set dest := hstores.folds trivial hlibrary hapart
  rw [(hfolds st st' hst halone).2, hspares.collected_eq]
  rfl

/-! ## One list a match -/

/-- Each match of the rule takes one list of values for the destination. -/
def TakesOne (dest : String) (rule : Rule) : Prop :=
  ∀ st st', st.savepoints = [] → rule.alone st = some st' →
    ∃ values, rule.collected dest st = [values]

theorem exists_collectedAll {collector : Collector} {own : Handler} {front : List Rule}
    (hfront : ∀ r ∈ front, r.Spares dest) (hdest : collector.dest = dest)
    (hall : aloneAll (front ++ [.collect collector own]) st = some st') :
    ∃ mid values, aloneAll front st = some mid ∧ collector.taken? mid = some values ∧
      collectedAll dest (front ++ [.collect collector own]) st = [values] := by
  induction front generalizing st with
  | nil =>
    obtain ⟨mid, halone, -⟩ := Option.bind_eq_some_iff.mp hall
    obtain ⟨values, -, hvalues, -⟩ := apply_of_alone_collect halone
    refine ⟨st, values, rfl, hvalues, ?_⟩
    rw [List.nil_append, collectedAll_cons_of_alone halone, collected, if_pos hdest, hvalues]
    rfl
  | cons rule front ih =>
    obtain ⟨hrule, hrest⟩ := List.forall_mem_cons.mp hfront
    rw [List.cons_append, aloneAll_cons] at hall
    obtain ⟨next, halone, hall⟩ := Option.bind_eq_some_iff.mp hall
    rw [List.cons_append, collectedAll_cons_of_alone halone, hrule.collected_eq, aloneAll_cons,
      halone]
    exact ih hrest hall

/-- A sequence takes one list where its last rule is the only one that collects for the
destination. -/
theorem takesOne_all {collector : Collector} {own : Handler} {front : List Rule}
    (hlibrary : (Rule.all id (front ++ [.collect collector own])).Library Handler.Local)
    (hapart : (Rule.all id (front ++ [.collect collector own])).Apart)
    (hfront : ∀ r ∈ front, r.Spares dest) (hdest : collector.dest = dest) :
    (Rule.all id (front ++ [.collect collector own])).TakesOne dest := by
  intro st st' hst halone
  rw [hlibrary.alone_all hapart hst] at halone
  rw [collected]
  obtain ⟨-, values, -, -, hvalues⟩ := exists_collectedAll hfront hdest halone
  exact ⟨values, hvalues⟩

theorem takesOne_capture {dests : List String} {format : Option RawFormat}
    (hlibrary : (Rule.capture id dests rule format handler).Library Handler.Local)
    (hapart : (Rule.capture id dests rule format handler).Apart) (h : rule.TakesOne dest) :
    (Rule.capture id dests rule format handler).TakesOne dest := by
  intro st st' hst halone
  obtain ⟨-, hnone⟩ | ⟨mid, consumed, hmatch, -⟩ := hlibrary.alone_capture hapart hst
  · exact nomatch hnone.symm.trans halone
  · rw [collected]
    exact h st mid hst hmatch

end Rule

/-! ## Kept matches -/

namespace TokenParser

/-- The states from which a parse takes the rule with a number and keeps its match, in order: there
it is the first rule that matches, and the match consumes a token. -/
def kept (p : TokenParser) (mode : Mode) (i : Nat) : (rounds : Nat) → State → List State
  | 0, _ => []
  | rounds + 1, st =>
    if st.tokens.isEmpty then []
    else
      match p.advance st with
      | .ok true next =>
        (if p.rules.findIdx? (fun rule => (rule.alone st).isSome) = some i then [st] else []) ++
          p.kept mode i rounds next
      | .ok false mid =>
        match skip mode mid with
        | .ok _ next => p.kept mode i rounds next
        | .error _ _ => []
      | .error _ _ => []

variable {p : TokenParser} {mode : Mode} {rule : Rule} {dest : String} {handler : Handler}
  {i rounds : Nat} {st st' next : State} {unparsed : List String}

/-- The first rule that matches has a number. -/
theorem exists_number_of_firstMatch {rules : List Rule} (h : Rule.firstMatch rules st = some next) :
    ∃ j rule, rules.findIdx? (fun rule => (rule.alone st).isSome) = some j ∧
      rules[j]? = some rule ∧ rule.alone st = some next := by
  obtain ⟨before, rule, after, rfl, halone, hbefore⟩ := List.findSome?_eq_some_iff.mp h
  refine ⟨before.length, rule, ?_, by simp, halone⟩
  have hnone : before.findIdx? (fun rule => (rule.alone st).isSome) = none :=
    List.findIdx?_eq_none_iff.mpr fun r hr => by rw [hbefore r hr]; rfl
  rw [List.findIdx?_append, hnone, List.findIdx?_cons, halone]
  simp

theorem kept_of_advance (left : st.tokens.isEmpty = false) (h : p.advance st = .ok true next) :
    p.kept mode i (rounds + 1) st =
      (if p.rules.findIdx? (fun rule => (rule.alone st).isSome) = some i then [st] else []) ++
        p.kept mode i rounds next := by
  rw [kept, left, if_neg Bool.false_ne_true, h]

theorem kept_of_skip {mid : State} {taken : List String} (left : st.tokens.isEmpty = false)
    (h : p.advance st = .ok false mid) (hskip : skip mode mid = .ok taken next) :
    p.kept mode i (rounds + 1) st = p.kept mode i rounds next := by
  rw [kept, left, if_neg Bool.false_ne_true, h]
  simp only [hskip]

/-- The cases of a parse that is not at its end: the first rule that matches is kept, or a token is
skipped. -/
theorem Sound.consumeAll_cases (h : p.Sound) (hst : st.savepoints = [])
    (left : st.tokens.isEmpty = false)
    (hrun : p.consumeAll mode (rounds + 1) st = .ok unparsed st') :
    (∃ next, Rule.firstMatch p.rules st = some next ∧ next.savepoints = [] ∧
        p.advance st = .ok true next ∧ p.consumeAll mode rounds next = .ok unparsed st') ∨
      ∃ taken next later, skip mode st = .ok taken next ∧ next.savepoints = [] ∧
        p.advance st = .ok false st ∧ p.consumeAll mode rounds next = .ok later st' := by
  rw [consumeAll, Step.get_bind, left, if_neg Bool.false_ne_true, Step.bind_apply] at hrun
  obtain ⟨next, hfirst, -, hsps, hadv⟩ | ⟨-, hadv⟩ := h.advance_cases hst
  · rw [hadv] at hrun
    exact .inl ⟨next, hfirst, hsps, hadv, hrun⟩
  · rw [hadv] at hrun
    obtain ⟨next, hskip, -, hsps⟩ := skip_eq mode left
    obtain ⟨_, _, hskip', hrun⟩ := Step.bind_eq_ok.mp hrun
    obtain ⟨rfl, rfl⟩ := EStateM.Result.ok.inj (hskip.symm.trans hskip')
    obtain ⟨later, _, hlater, hpure⟩ := Step.bind_eq_ok.mp hrun
    obtain ⟨-, rfl⟩ := Step.pure_eq_ok.mp hpure
    exact .inr ⟨_, next, later, hskip, hsps hst, hadv, hlater⟩

/-- Skipped tokens are recorded in the attributes that are named for them. -/
theorem attribute?_of_skip {taken : List String} (hdest : dest ∉ mode.unknownDest)
    (h : skip mode st = .ok taken next) : next.attribute? dest = st.attribute? dest := by
  obtain ⟨behind, rfl, ⟨-, rfl⟩ | ⟨buffer, -, rfl⟩⟩ := skip_eq_ok h
  · exact get?_record_of_not_mem hdest taken _
  · exact get?_record_of_not_mem hdest taken _

/-- The induction on the rounds up to a last state: what holds of this state, from which no match is
kept, and carries over from the state after a round to the one before it, holds of the first state
and the matches that are kept. -/
theorem Sound.consumeAll_induction (h : p.Sound) (hrule : p.rules[i]? = some rule)
    {P : State → List State → Prop} (done : P st' [])
    (own : ∀ st next kept, st.savepoints = [] → rule.alone st = some next → P next kept →
      P st (st :: kept))
    (others : ∀ st next kept j other, j ≠ i → p.rules[j]? = some other → st.savepoints = [] →
      other.alone st = some next → P next kept → P st kept)
    (skipped : ∀ st next kept taken, skip mode st = .ok taken next → P next kept → P st kept)
    (hst : st.savepoints = []) (hrun : p.consumeAll mode rounds st = .ok unparsed st') :
    P st (p.kept mode i rounds st) := by
  induction rounds generalizing st unparsed with
  | zero =>
    obtain ⟨-, rfl⟩ := Step.pure_eq_ok.mp hrun
    exact done
  | succ rounds ih =>
    cases left : st.tokens.isEmpty with
    | true =>
      rw [consumeAll, Step.get_bind, left] at hrun
      obtain ⟨-, rfl⟩ := Step.pure_eq_ok.mp hrun
      rw [kept, left]
      exact done
    | false =>
      obtain ⟨next, hfirst, hsps, hadv, hlater⟩ | ⟨taken, next, later, hskip, hsps, hadv, hlater⟩ :=
        h.consumeAll_cases hst left hrun
      · obtain ⟨j, other, hnumber, hother, halone⟩ := exists_number_of_firstMatch hfirst
        rw [kept_of_advance left hadv, hnumber]
        by_cases hj : j = i
        · subst hj
          obtain rfl := Option.some.inj (hrule.symm.trans hother)
          rw [if_pos rfl]
          exact own st next _ hst halone (ih hsps hlater)
        · rw [if_neg fun heq => hj (Option.some.inj heq)]
          exact others st next _ j other hj hother hst halone (ih hsps hlater)
      · rw [kept_of_skip left hadv hskip]
        exact skipped st next _ taken hskip (ih hsps hlater)

/-- Where one rule stores in an attribute and nothing else writes it, the attribute is the row of
the lists of values that the kept matches of this rule have taken. -/
theorem Sound.attribute_consumeAll (h : p.Sound) (hrule : p.rules[i]? = some rule)
    (hfolds : rule.Folds handler dest)
    (hothers : ∀ j other, j ≠ i → p.rules[j]? = some other → ∀ st st', st.savepoints = [] →
      other.alone st = some st' → st'.attribute? dest = st.attribute? dest)
    (hunknown : dest ∉ mode.unknownDest) (hst : st.savepoints = [])
    (hrun : p.consumeAll mode rounds st = .ok unparsed st') :
    st'.attribute? dest = ((p.kept mode i rounds st).flatMap (rule.collected dest)).foldl
      handler.store (st.attribute? dest) := by
  refine h.consumeAll_induction (P := fun st kept => st'.attribute? dest =
    (kept.flatMap (rule.collected dest)).foldl handler.store (st.attribute? dest)) hrule rfl
    ?_ ?_ ?_ hst hrun
  · intro st next kept hst halone ih
    rw [List.flatMap_cons, List.foldl_append, ← (hfolds st next hst halone).2, ih]
  · intro st next kept j other hj hother hst halone ih
    rw [ih, hothers j other hj hother st next hst halone]
  · intro st next kept taken hskip ih
    rw [ih, attribute?_of_skip hunknown hskip]

/-- An attribute that one rule at most writes is left, if no match of this rule is kept. -/
theorem Sound.attribute_of_kept_eq_nil (h : p.Sound) (hrule : p.rules[i]? = some rule)
    (hothers : ∀ j other, j ≠ i → p.rules[j]? = some other → ∀ st st', st.savepoints = [] →
      other.alone st = some st' → st'.attribute? dest = st.attribute? dest)
    (hunknown : dest ∉ mode.unknownDest) (hst : st.savepoints = [])
    (hrun : p.consumeAll mode rounds st = .ok unparsed st')
    (hnone : p.kept mode i rounds st = []) : st'.attribute? dest = st.attribute? dest := by
  refine h.consumeAll_induction
    (P := fun st kept => kept = [] → st'.attribute? dest = st.attribute? dest) hrule
    (fun _ => rfl) (fun _ _ _ _ _ _ hcons => nomatch hcons) ?_ ?_ hst hrun hnone
  · intro st next kept j other hj hother hst halone ih hnone
    rw [ih hnone, hothers j other hj hother st next hst halone]
  · intro st next kept taken hskip ih hnone
    rw [ih hnone, attribute?_of_skip hunknown hskip]

/-- The induction on the rounds: what holds of a state from which no match is kept, and carries over
from the state after a round to the one before it, holds of every state and the matches that are
kept from there on. -/
theorem Sound.kept_induction (h : p.Sound) (hrule : p.rules[i]? = some rule)
    {P : State → List State → Prop} (done : ∀ st, P st [])
    (own : ∀ st next kept, st.savepoints = [] → st.tokens.isEmpty = false →
      rule.alone st = some next → next.tokens.size < st.tokens.size → P next kept →
      P st (st :: kept))
    (others : ∀ st next kept j other, j ≠ i → p.rules[j]? = some other → st.savepoints = [] →
      other.alone st = some next → next.tokens.size < st.tokens.size → P next kept → P st kept)
    (skipped : ∀ st next kept taken, skip mode st = .ok taken next → P next kept → P st kept)
    (rounds : Nat) (hst : st.savepoints = []) : P st (p.kept mode i rounds st) := by
  induction rounds generalizing st with
  | zero => exact done st
  | succ rounds ih =>
    cases left : st.tokens.isEmpty with
    | true =>
      rw [kept, left]
      exact done st
    | false =>
      obtain ⟨next, hfirst, hsize, hsps, hadv⟩ | ⟨-, hadv⟩ := h.advance_cases hst
      · obtain ⟨j, other, hnumber, hother, halone⟩ := exists_number_of_firstMatch hfirst
        rw [kept_of_advance left hadv, hnumber]
        by_cases hj : j = i
        · subst hj
          obtain rfl := Option.some.inj (hrule.symm.trans hother)
          rw [if_pos rfl]
          exact own st next _ hst left halone hsize (ih hsps)
        · rw [if_neg fun heq => hj (Option.some.inj heq)]
          exact others st next _ j other hj hother hst halone hsize (ih hsps)
      · obtain ⟨next, hskip, -, hsps⟩ := skip_eq mode left
        rw [kept_of_skip left hadv hskip]
        exact skipped st next _ _ hskip (ih (hsps hst))

/-- From where a match is kept, tokens are left, and the rule matches alone. -/
theorem Sound.alone_of_mem_kept (h : p.Sound) (hrule : p.rules[i]? = some rule)
    (hst : st.savepoints = []) {here : State} (hhere : here ∈ p.kept mode i rounds st) :
    here.savepoints = [] ∧ here.tokens.isEmpty = false ∧ ∃ next, rule.alone here = some next := by
  refine h.kept_induction (P := fun _ kept => ∀ here ∈ kept, here.savepoints = [] ∧
    here.tokens.isEmpty = false ∧ ∃ next, rule.alone here = some next) hrule
    (fun _ here hhere => nomatch hhere) ?_ ?_ ?_ rounds hst here hhere
  · intro st next kept hst left halone _ ih
    exact List.forall_mem_cons.mpr ⟨⟨hst, left, next, halone⟩, ih⟩
  · exact fun _ _ _ _ _ _ _ _ _ _ ih => ih
  · exact fun _ _ _ _ _ ih => ih

end TokenParser

end TokenGrammar
