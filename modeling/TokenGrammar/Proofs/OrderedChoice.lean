import TokenGrammar.Proofs.Isolation

/-!
# Rules as partial functions

A tree of rules means a partial function on the tokens that are left, the attributes and the kept
values. No savepoint occurs in it: a sequence is composition, a choice is the first alternative that
is defined, and a lookahead is defined where its rule is not.

* `Rule.denote`: the meaning of a rule;
* `Step.Yields`: a step computes a meaning. `Rule.yields_runAll`, `Rule.yields_runAny` and their
  like give this for each kind of rule, and `Rule.Each.yields` for a tree, by induction on it;
* `Rule.run_eq_denote`: running a tree matches just where it is defined, with what the meaning
  gives, changes nothing where it is not, and never fails.
-/

namespace TokenGrammar

/-! ## Views -/

/-- A content without the tokens that are consumed. -/
@[ext]
structure View where
  tokens : List String
  attributes : Namespace
  scratch : Scratch

/-- What the meaning of a rule is about. -/
def Content.view (c : Content) : View := ⟨c.tokens.remaining, c.attributes, c.scratch⟩

/-- What the meaning of a rule is about. -/
def State.view (st : State) : View := st.content.view

namespace View

/-- Tests the next token, of which there may be none. -/
def testNext (p : String → Bool) (v : View) : Option View :=
  if v.tokens.head?.any p then some v else none

/-- Replaces the next token, unless there is none or the function refuses it. -/
def replaceNext (f : String → Option String) (v : View) : Option View :=
  match v.tokens with
  | [] => none
  | token :: rest => (f token).map fun replaced => { v with tokens := replaced :: rest }

/-- Consumes tokens, unless fewer are left. -/
def skip (n : Nat) (v : View) : Option View :=
  if n ≤ v.tokens.length then some { v with tokens := v.tokens.drop n } else none

/-- Counts up to a bound. -/
def countTo (id : Nat) (most : Option Nat) (v : View) : Option View :=
  let count := v.scratch.count id
  if most.any fun bound : Nat => bound ≤ count.toInt then none
  else some { v with scratch := v.scratch.set (.rule id) Rule.counterKey (.int (count + 1)) }

/-- Writes values to destinations, one after the other. -/
def writeAll (handler : Handler) (writes : List (String × Value)) (v : View) : View :=
  { v with attributes := writes.foldl (fun ns w => handler.write w.1 w.2 ns) v.attributes }

/-- Takes values greedily and writes them. -/
def collect (collector : Collector) (handler : Handler) (v : View) : Option View :=
  let values := collector.gather 0 v.tokens
  if collector.enough v.tokens then
    some <| writeAll handler [(collector.dest, .list (collector.stored values))]
      { v with tokens := v.tokens.drop values.length }
  else none

/-- Writes the tokens that were consumed on the way to another view, if there are any. -/
def capture (dests : List String) (format : Option RawFormat) (handler : Handler) (v w : View) :
    View :=
  let count := v.tokens.length - w.tokens.length
  if count = 0 then w
  else w.writeAll handler (RawFormat.writes dests format (v.tokens.take count))

end View

namespace Rule

mutual

/-- The meaning of a rule. -/
def denote : Rule → View → Option View
  | .skip n, v => v.skip n
  | .check predicate, v => v.testNext predicate
  | .isIn words fold, v => v.testNext (isWord words fold)
  | .isEmpty, v => v.testNext (· = "")
  | .not _ rule, v => if (rule.denote v).isSome then none else some v
  | .replace f, v => v.replaceNext f
  | .removePrefix prefixes fold, v => v.replaceNext (stripFirst? prefixes fold)
  | .all _ rules, v => denoteAll rules v
  | .any _ rules, v => denoteAny rules v
  | .limit id most, v => v.countTo id most
  | .collect collector handler, v => v.collect collector handler
  | .capture _ dests rule format handler, v => (rule.denote v).map (v.capture dests format handler)
  | .custom _, _ => none

/-- Each rule where the one before it leads. -/
def denoteAll : List Rule → View → Option View
  | [], v => some v
  | rule :: rules, v => (rule.denote v).bind (denoteAll rules)

/-- The first rule that is defined. -/
def denoteAny : List Rule → View → Option View
  | [], _ => none
  | rule :: rules, v => (rule.denote v).or (denoteAny rules v)

end

/-- Whether the rule consumes at least one token whenever it matches. -/
def Consumes (rule : Rule) : Prop :=
  ∀ st st', st.tokens.Valid → (∀ sp ∈ st.savepoints, rule.Avoids sp.owner) →
    rule.run st = .ok true st' → st'.tokens.size < st.tokens.size

/-- The rules that have a meaning: bounds are words with a sign, handlers are built in, and what is
captured is at least one token. -/
def Meaningful : Rule → Prop
  | .limit _ most => ∀ bound ∈ most, bound < UInt64.size / 2
  | .collect _ handler => handler.BuiltIn
  | .capture _ _ rule _ handler => handler.BuiltIn ∧ rule.Consumes
  | .custom _ => False
  | _ => True

end Rule

/-! ## Steps that compute a meaning -/

/-- From a content the step does what the meaning says: it matches and leaves what the meaning
gives, or does not match and leaves everything as it was. -/
def Step.Yields (step : Step Bool) (free : Owner → Prop) (c : Content) : Option View → Prop
  | some w => ∃ d, step.Acts free c true d ∧ d.view = w ∧ d.tokens.Valid
  | none => step.Acts free c false c

theorem Step.Yields.mono {step : Step Bool} {free inner : Owner → Prop} {c : Content}
    {w? : Option View} (h : step.Yields inner c w?) (hsub : ∀ o, free o → inner o) :
    step.Yields free c w? := by
  cases w? with
  | none => exact Step.Acts.mono h hsub
  | some w =>
    obtain ⟨d, hacts, hd⟩ := h
    exact ⟨d, hacts.mono hsub, hd⟩

namespace Rule

variable {free inner : Owner → Prop} {c : Content}

theorem yields_onNext (hv : c.tokens.Valid) (p : String → Bool) :
    (onNext p).Yields free c (c.view.testNext p) := by
  have hacts : (onNext p).Acts free c _ c := acts_onNext p
  rw [hv.head?] at hacts
  rw [View.testNext]
  show (onNext p).Yields free c (if c.tokens.remaining.head?.any p then some c.view else none)
  cases hp : c.tokens.remaining.head?.any p with
  | true =>
    rw [hp] at hacts
    exact ⟨c, hacts, rfl, hv⟩
  | false =>
    rw [hp] at hacts
    exact hacts

theorem yields_replaceNext (hv : c.tokens.Valid) (f : String → Option String) :
    (replaceNext f).Yields free c (c.view.replaceNext f) := by
  have hnext := hv.head?
  cases ht : c.tokens.remaining with
  | nil =>
    have hview : c.view.replaceNext f = none := by simp [View.replaceNext, Content.view, ht]
    rw [hview]
    refine acts_replaceNext_none ?_
    rw [hnext, ht]
    rfl
  | cons token rest =>
    rw [ht] at hnext
    have hview : c.view.replaceNext f =
        (f token).map fun replaced => { c.view with tokens := replaced :: rest } := by
      simp [View.replaceNext, Content.view, ht]
    rw [hview]
    cases hf : f token with
    | none => exact acts_replaceNext_none (by rw [hnext]; exact hf)
    | some replaced =>
      refine ⟨_, acts_replaceNext_some (by rw [hnext]; exact hf), ?_, hv.replace _ _⟩
      exact View.ext (hv.remaining_replace ht replaced) rfl rfl

theorem yields_skip (hv : c.tokens.Valid) (n : Nat) :
    (run (.skip n)).Yields free c (c.view.skip n) := by
  have hlen : c.view.tokens.length = c.tokens.size := c.tokens.length_remaining
  rw [View.skip, hlen]
  by_cases hn : n ≤ c.tokens.size
  · rw [if_pos hn]
    refine ⟨_, acts_skip_some (if_neg (Nat.not_lt.mpr hn)), ?_, hv.take hn⟩
    exact View.ext (c.tokens.remaining_advance n) rfl rfl
  · rw [if_neg hn]
    exact acts_skip_none (if_pos (Nat.lt_of_not_le hn))

/-- A limit in terms of words with a sign, whatever the bound. -/
theorem yields_limitStep_words (hv : c.tokens.Valid) (id : Nat) (most : Option Nat) :
    (limitStep id most).Yields free c
      (if most.any (Int64.ofNat · ≤ c.scratch.count id) then none
      else some { c.view with
        scratch := c.scratch.set (.rule id) counterKey (.int (c.scratch.count id + 1)) }) := by
  have hacts : (limitStep id most).Acts free c _ _ := acts_limitStep id most
  cases hm : most.any (fun bound => decide (Int64.ofNat bound ≤ c.scratch.count id)) with
  | true =>
    rw [hm] at hacts
    exact hacts
  | false =>
    rw [hm] at hacts
    exact ⟨_, hacts, rfl, hv⟩

theorem yields_limitStep (hv : c.tokens.Valid) (id : Nat) {most : Option Nat}
    (hmost : ∀ bound ∈ most, bound < UInt64.size / 2) :
    (limitStep id most).Yields free c (c.view.countTo id most) := by
  -- below the bound of signed words the comparison of words is that of numbers
  have hbound : most.any (fun bound => decide (Int64.ofNat bound ≤ c.scratch.count id)) =
      most.any fun bound : Nat => decide (bound ≤ (c.scratch.count id).toInt) := by
    cases most with
    | none => rfl
    | some bound =>
      have hlt := hmost bound rfl
      simp only [Option.any_some, Int64.le_iff_toInt_le, Int64.toInt_ofNat_of_lt hlt]
  have hyields : (limitStep id most).Yields free c _ := yields_limitStep_words hv id most
  rw [hbound] at hyields
  exact hyields

/-- The values are taken from what is in view, and written to it. -/
theorem collect_view (c : Content) (collector : Collector) (handler : Handler) :
    c.view.collect collector handler =
      if collector.enough c.tokens.remaining then
        some (View.writeAll handler
          [(collector.dest, .list (collector.stored (collector.gather 0 c.tokens.remaining)))]
          (collector.after c).view)
      else none := by
  rw [View.collect, Collector.after]
  simp only [Content.view, TokenBuffer.remaining_advance]
  rfl

theorem yields_collectStep (hv : c.tokens.Valid) {collector : Collector} {handler : Handler}
    (hh : handler.BuiltIn) (hfree : ∀ o, free o → o ≠ .rule collector.id) :
    (collectStep collector handler).Yields free c (c.view.collect collector handler) := by
  rw [collect_view]
  cases he : collector.enough c.tokens.remaining with
  | false => exact acts_collectStep_false hfree he
  | true =>
    refine ⟨_, acts_collectStep hfree he (.apply hh _ _ _), rfl, hv.take ?_⟩
    rw [← c.tokens.length_remaining]
    exact collector.length_gather_le 0 _

/-- A sequence goes as far as the meanings of its rules do; where they end is taken back by the
attempt around it. -/
theorem acts_runAll {rules : List Rule} {meaning : Rule → View → Option View}
    (hrules : ∀ r ∈ rules, ∀ c : Content, c.tokens.Valid →
      r.run.Yields free c (meaning r c.view)) (hv : c.tokens.Valid) :
    ∃ d, (runAll rules).Acts free c (rules.foldlM (fun v r => meaning r v) c.view).isSome d ∧
      ∀ w ∈ rules.foldlM (fun v r => meaning r v) c.view, d.view = w ∧ d.tokens.Valid := by
  induction rules generalizing c with
  | nil =>
    rw [runAll]
    exact ⟨c, .pure true, by rintro _ ⟨⟩; exact ⟨rfl, hv⟩⟩
  | cons rule rules ih =>
    obtain ⟨hrule, hrest⟩ := List.forall_mem_cons.mp hrules
    have hyields := hrule c hv
    rw [runAll, List.foldlM_cons]
    cases hden : meaning rule c.view with
    | none =>
      rw [hden] at hyields
      exact ⟨c, hyields.bind (.pure false), by rintro _ ⟨⟩⟩
    | some w =>
      rw [hden] at hyields
      obtain ⟨d, hacts, rfl, hd⟩ := hyields
      obtain ⟨e, hall, he⟩ := ih hrest hd
      exact ⟨e, hacts.bind hall, he⟩

theorem denoteAll_eq_foldlM (rules : List Rule) (v : View) :
    denoteAll rules v = rules.foldlM (fun v r => r.denote v) v := by
  induction rules generalizing v with
  | nil => rfl
  | cons rule rules ih =>
    rw [denoteAll, List.foldlM_cons]
    exact congrArg _ (funext ih)

theorem yields_attempt {owner : Owner} {step : Step Bool} {w? : Option View} {d : Content}
    (hacts : step.Acts inner c w?.isSome d) (hd : ∀ w ∈ w?, d.view = w ∧ d.tokens.Valid)
    (howner : inner owner) (hsub : ∀ o, free o → inner o ∧ o ≠ owner) :
    (State.attempt owner step).Yields free c w? := by
  have hattempt := hacts.attempt howner hsub
  cases w? with
  | none => exact hattempt
  | some w =>
    obtain ⟨rfl, hvalid⟩ := hd w rfl
    exact ⟨d, hattempt, rfl, hvalid⟩

theorem yields_all {id : Nat} {rules : List Rule} {meaning : Rule → View → Option View}
    (hapart : (Rule.all id rules).Apart) (hrules : ∀ r ∈ rules, ∀ c : Content, c.tokens.Valid →
      r.run.Yields r.Avoids c (meaning r c.view)) (hv : c.tokens.Valid) :
    (Rule.all id rules).run.Yields (Rule.all id rules).Avoids c
      (rules.foldlM (fun v r => meaning r v) c.view) := by
  obtain ⟨howner, hsub⟩ := hapart.scope rfl
  have hsubs : ∀ r ∈ rules, ∀ c : Content, c.tokens.Valid →
      r.run.Yields (fun o => ∀ q ∈ rules, q.Avoids o) c (meaning r c.view) :=
    fun r hr c hc => (hrules r hr c hc).mono fun o ho => ho r hr
  obtain ⟨d, hacts, hd⟩ := acts_runAll hsubs hv
  rw [run]
  exact yields_attempt hacts hd howner hsub

/-- A choice does what the first alternative does that is defined. -/
theorem yields_runAny {owner : Owner} {rules : List Rule} (hrules : ∀ r ∈ rules, ∀ c : Content,
    c.tokens.Valid → r.run.Yields inner c (r.denote c.view)) (hv : c.tokens.Valid)
    (howner : inner owner) (hsub : ∀ o, free o → inner o ∧ o ≠ owner) :
    (runAny owner rules).Yields free c (denoteAny rules c.view) := by
  induction rules with
  | nil =>
    rw [runAny, denoteAny]
    exact .pure false
  | cons rule rules ih =>
    obtain ⟨hrule, hrest⟩ := List.forall_mem_cons.mp hrules
    have hyields := hrule c hv
    rw [runAny, denoteAny]
    cases hden : rule.denote c.view with
    | none =>
      rw [hden] at hyields
      have hattempt : (State.attempt owner rule.run).Acts free c false c :=
        Step.Acts.attempt hyields howner hsub
      have htail := ih hrest
      rw [Option.none_or]
      cases htails : denoteAny rules c.view with
      | none =>
        rw [htails] at htail
        exact hattempt.bind htail
      | some w =>
        rw [htails] at htail
        obtain ⟨d, hd, hw⟩ := htail
        exact ⟨d, hattempt.bind hd, hw⟩
    | some w =>
      rw [hden] at hyields
      obtain ⟨d, hacts, hd⟩ := hyields
      exact ⟨d, (hacts.attempt howner hsub).bind (.pure true), hd⟩

/-- A capture writes the tokens that the meaning has consumed. -/
theorem yields_captureStep {id : Nat} {dests : List String} {format : Option RawFormat}
    {handler : Handler} {rule : Rule} (hh : handler.BuiltIn) (hconsumes : rule.Consumes)
    (hv : c.tokens.Valid) (hrule : rule.run.Yields inner c (rule.denote c.view))
    (howner : inner (.rule id)) (hsub : ∀ o, free o → inner o ∧ o ≠ .rule id) :
    (captureStep id dests format handler rule.run).Yields free c
      ((rule.denote c.view).map (c.view.capture dests format handler)) := by
  cases hden : rule.denote c.view with
  | none =>
    rw [hden] at hrule
    exact Step.Acts.captureStep_false hrule howner hsub
  | some w =>
    rw [hden] at hrule
    obtain ⟨d, hacts, rfl, hd⟩ := hrule
    obtain ⟨consumed, hconsumed, hwrite⟩ := hacts.captureStep howner hsub
    obtain ⟨f, hf, hrun⟩ := hacts
    have hlength := hf.length_tokens
    have hmove : d.tokens.size < c.tokens.size :=
      hconsumes (c.under []) _ hv (by simp) (hrun [] (by simp))
    have hcount : c.view.tokens.length - d.view.tokens.length =
        d.tokens.cursor - c.tokens.cursor := by
      have := hv.cursor
      have := hd.cursor
      show c.tokens.remaining.length - d.tokens.remaining.length = _
      rw [TokenBuffer.length_remaining, TokenBuffer.length_remaining]
      simp only [TokenBuffer.size] at hmove ⊢
      omega
    have hpos : c.tokens.cursor < d.tokens.cursor := by
      simp only [TokenBuffer.size] at hmove
      omega
    refine ⟨_, hwrite _ (.applyAll hh _ d), ?_, hd⟩
    rw [View.capture, hcount, if_neg (by omega), hconsumed hpos hd.cursor]
    rfl

/-- A tree of rules that have a meaning computes it. -/
theorem Each.yields {rule : Rule} (h : rule.Each Meaningful) (hapart : rule.Apart)
    (hv : c.tokens.Valid) : rule.run.Yields rule.Avoids c (rule.denote c.view) := by
  induction h generalizing c with
  | @intro rule root _ ih =>
    have hsubs : ∀ r ∈ rule.subrules, ∀ c : Content, c.tokens.Valid →
        r.run.Yields (fun o => ∀ q ∈ rule.subrules, q.Avoids o) c (r.denote c.view) :=
      fun r hr c hc => (ih r hr (hapart.subs r hr) hc).mono fun o ho => ho r hr
    cases rule with
    | skip n => exact yields_skip hv n
    | check p =>
      rw [run, denote]
      exact yields_onNext hv p
    | isIn words fold =>
      rw [run, denote]
      exact yields_onNext hv _
    | isEmpty =>
      rw [run, denote]
      exact yields_onNext hv _
    | not id rule =>
      obtain ⟨howner, hsub⟩ := hapart.scope rfl
      have hrule := hsubs rule List.mem_cons_self c hv
      rw [run, denote]
      cases hden : rule.denote c.view with
      | none =>
        rw [hden] at hrule
        have hacts : rule.run.Acts (fun o => ∀ q ∈ [rule], q.Avoids o) c false c := hrule
        exact ⟨c, hacts.notStep howner hsub, rfl, hv⟩
      | some w =>
        rw [hden] at hrule
        obtain ⟨d, hacts, -⟩ := hrule
        exact hacts.notStep howner hsub
    | replace f =>
      rw [run, denote]
      exact yields_replaceNext hv f
    | removePrefix prefixes fold =>
      rw [run, denote]
      exact yields_replaceNext hv _
    | all id rules =>
      rw [denote, denoteAll_eq_foldlM]
      exact yields_all hapart (fun r hr c hc => ih r hr (hapart.subs r hr) hc) hv
    | any id rules =>
      obtain ⟨howner, hsub⟩ := hapart.scope rfl
      rw [run, denote]
      exact yields_runAny hsubs hv howner hsub
    | limit id most =>
      rw [run, denote]
      exact yields_limitStep hv id root
    | collect collector handler =>
      obtain ⟨-, hsub⟩ := hapart.scope rfl
      rw [run, denote]
      exact yields_collectStep hv root fun o ho => (hsub o ho).2
    | capture id dests rule format handler =>
      obtain ⟨howner, hsub⟩ := hapart.scope rfl
      rw [run, denote]
      exact yields_captureStep root.1 root.2 hv (hsubs rule List.mem_cons_self c hv) howner hsub
    | custom step => exact root.elim

/-- Whether a rule consumes can be read off its meaning. -/
theorem consumes_of_denote {rule : Rule} (h : rule.Each Meaningful) (hapart : rule.Apart)
    (hden : ∀ v w, rule.denote v = some w → w.tokens.length < v.tokens.length) :
    rule.Consumes := by
  intro st st' hv hfree hrun
  have hyields := h.yields hapart (c := st.content) hv
  cases hw : rule.denote st.content.view with
  | none =>
    rw [hw] at hyields
    obtain ⟨f, -, hacts⟩ := hyields
    exact nomatch hrun.symm.trans (hacts st.savepoints hfree)
  | some w =>
    rw [hw] at hyields
    obtain ⟨d, ⟨f, -, hacts⟩, rfl, -⟩ := hyields
    obtain ⟨-, rfl⟩ := EStateM.Result.ok.inj (hrun.symm.trans (hacts st.savepoints hfree))
    have hlt := hden _ _ hw
    rw [← st.tokens.length_remaining, ← TokenBuffer.length_remaining]
    exact hlt

/-- Running a tree of rules is its meaning. It matches just where the meaning is defined, and leaves
what that gives; where it is not defined nothing changes. No savepoint stays open, and no run
fails. -/
theorem run_eq_denote {rule : Rule} (h : rule.Each Meaningful) (hapart : rule.Apart) {st : State}
    (hv : st.tokens.Valid) (hfree : ∀ sp ∈ st.savepoints, rule.Avoids sp.owner) :
    ∃ st', rule.run st = .ok (rule.denote st.view).isSome st' ∧
      st'.view = (rule.denote st.view).getD st.view ∧
      (rule.denote st.view = none → st'.content = st.content) ∧
      st'.savepoints.map (·.owner) = st.savepoints.map (·.owner) := by
  have hyields := h.yields hapart (c := st.content) hv
  have hview : st.view = st.content.view := rfl
  rw [hview]
  cases hden : rule.denote st.content.view with
  | none =>
    rw [hden] at hyields
    obtain ⟨f, hf, hrun⟩ := hyields
    exact ⟨_, hrun st.savepoints hfree, rfl, fun _ => rfl, hf.map_owner st.savepoints⟩
  | some w =>
    rw [hden] at hyields
    obtain ⟨d, ⟨f, hf, hrun⟩, rfl, -⟩ := hyields
    exact ⟨_, hrun st.savepoints hfree, rfl, fun h => (nomatch h), hf.map_owner st.savepoints⟩

/-- A flag that may be given once, recorded with its sign. -/
def signed : Rule :=
  .all 1 [.any 2 [.all 3 [.skip 2, .isEmpty],
    .capture 4 ["raw"] (.all 5 [.removePrefix ["-"] false, .skip 1]) none .set], .limit 6 (some 1)]

theorem run_eq_denote_signed :
    ∃ st', signed.run (.start ["-x", "y"] none) = .ok true st' ∧ st'.view.tokens = ["y"] ∧
      st'.view.attributes = Namespace.empty.set "raw" (.ofTexts ["-x"]) ∧ st'.depth = 0 := by
  have hinner : Consumes (.all 5 [.removePrefix ["-"] false, .skip 1]) := by
    refine consumes_of_denote ?_ ?_ fun v w hw => ?_
    · simp [Meaningful]
    · simp [Apart, Avoids, owner?, subrules]
    · simp only [denote, denoteAll, Option.bind_eq_some_iff, Option.some.injEq] at hw
      obtain ⟨u, hu, x, hx, rfl⟩ := hw
      rw [View.skip, Option.ite_none_right_eq_some] at hx
      obtain ⟨hone, hx⟩ := hx
      obtain rfl := Option.some.inj hx
      cases ht : v.tokens with
      | nil => simp [View.replaceNext, ht] at hu
      | cons token rest =>
        simp only [View.replaceNext, ht] at hu
        obtain ⟨replaced, -, rfl⟩ := Option.map_eq_some_iff.mp hu
        simp
  have hmeaning : signed.Each Meaningful := by
    simp [signed, Meaningful, Handler.BuiltIn, hinner, UInt64.size]
  have hapart : signed.Apart := by
    simp [signed, Apart, Avoids, owner?, subrules]
  have hvalid : (State.start ["-x", "y"] none).tokens.Valid := ⟨by decide, by decide⟩
  obtain ⟨st', hrun, hview, -, howners⟩ :=
    run_eq_denote hmeaning hapart hvalid (by simp [State.start])
  refine ⟨st', hrun, ?_, ?_, ?_⟩
  · rw [hview]; rfl
  · rw [hview]; rfl
  · simpa [State.start, State.depth] using congrArg List.length howners

end Rule

end TokenGrammar
