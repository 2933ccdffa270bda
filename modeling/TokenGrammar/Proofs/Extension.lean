import TokenGrammar.Proofs.Agreement
import TokenGrammar.Proofs.Compilation

/-!
# Grammars that grow

An argument that is declared last is tried last. Where a strict parse without it ends well, the
earlier rules match in every round, so the new one is never come to, whatever it might match. What
is left are its validators. Those of an optional argument that asks for nothing remove what was made
up for it, which is not there.

* `TokenParser.Matched.append`: the rounds of a parse are those of a parse with more rules behind,
  by induction on them;
* `Declaration.exists_remove_of_silent`: the validators of an argument that asks for nothing;
* `ArgumentParser.Declares.parse_addArgument`: the extension of a grammar is conservative.
-/

namespace TokenGrammar

/-! ## More rules -/

namespace Rule

variable {owner : Owner} {st st' : State}

/-- Where one of the rules matches, more rules behind them change nothing. -/
theorem runAny_append_of_match {rules : List Rule} (more : List Rule)
    (h : runAny owner rules st = .ok true st') :
    runAny owner (rules ++ more) st = .ok true st' := by
  rw [runAny_append, Step.bind_eq_ok]
  exact ⟨true, st', h, rfl⟩

end Rule

namespace TokenParser

variable {p : TokenParser} {st mid st' : State}

/-- Where a round matches, more rules behind the others change nothing. -/
theorem advance_append (more : List Rule) (validators : List Validator)
    (h : p.advance st = .ok true mid) :
    advance ⟨p.rules ++ more, validators⟩ st = .ok true mid := by
  rw [advance_eq_attempt, State.attempt_eq_ok] at h ⊢
  obtain ⟨inner, opens, hstep, closes⟩ := h
  refine ⟨inner, opens, ?_, closes⟩
  rw [progress, Step.bind_eq_ok] at hstep ⊢
  obtain ⟨chosen, after, hchoice, hstep⟩ := hstep
  cases chosen with
  | true => exact ⟨true, after, Rule.runAny_append_of_match more hchoice, hstep⟩
  | false => cases (Step.pure_eq_ok.mp hstep).1

theorem Matched.append (more : List Rule) (validators : List Validator) (h : p.Matched st st') :
    Matched ⟨p.rules ++ more, validators⟩ st st' := by
  induction h with
  | done none_left => exact .done none_left
  | round left advances _ ih => exact .round left (advance_append more validators advances) ih

/-- What holds of every rule that matches holds of a round that does. -/
theorem ensures_advance {R : Content → Content → Prop} (hord : ∀ r ∈ p.rules, r.Orderly)
    (h : ∀ r ∈ p.rules, r.run.Ensures R) : p.advance.Ensures R := by
  have hprogress (before : Nat) : (p.progress before).Ensures R := by
    intro st st' hrun
    rw [progress, Step.bind_eq_ok] at hrun
    obtain ⟨chosen, after, hchoice, hrun⟩ := hrun
    rw [Step.get_bind] at hrun
    obtain ⟨hmatched, rfl⟩ := Step.pure_eq_ok.mp hrun
    obtain rfl : chosen = true := (Bool.and_eq_true_iff.mp hmatched.symm).1
    exact Rule.ensures_runAny h hord _ _ hchoice
  intro st st' hrun
  rw [advance_eq_attempt] at hrun
  exact (hprogress _).attempt st st' hrun

/-- An attribute that no rule changes stays in rounds that match. -/
theorem Matched.attribute_eq {name : String} (hord : ∀ r ∈ p.rules, r.Orderly)
    (hkeeps : ∀ r ∈ p.rules,
      r.run.Ensures fun c d => d.attributes.get? name = c.attributes.get? name)
    (h : p.Matched st st') : st'.attributes.get? name = st.attributes.get? name := by
  induction h with
  | done => rfl
  | round _ advances _ ih => exact ih.trans (ensures_advance hord hkeeps _ _ advances)

end TokenParser

/-! ## Arguments that ask for nothing -/

/-- An optional argument that is not required, and has no default of its own or by its action. -/
structure Argument.Silent (settings : Settings) (a : Argument) : Prop where
  optional : Declaration.isOptional a (a.prefixChars.getD settings.prefixChars) = true
  required : a.required ≠ some true
  default : a.default = none
  action : a.action ≠ some .storeTrue ∧ a.action ≠ some .storeFalse

namespace Declaration

variable {base : Nat} {r : ResolvedArgument} {v : Validator}

/-- An argument writes its destination. -/
theorem not_spares_dest (base : Nat) (r : ResolvedArgument) :
    ¬ (build base r).rule.Spares (r.dest.getD (anonymousDest base)) := by
  intro hspares
  refine collect_of_each_build (fun q hq => ?_) hspares (List.mem_singleton_self _)
  rw [hq]
  exact List.not_mem_nil

/-- The one validator of an optional argument that asks for nothing removes what was made up. -/
theorem exists_remove_of_build (hkind : ∃ flags prefixes, r.kind = .optional flags prefixes)
    (hrequired : r.required = false) (hdefault : r.default = none)
    (hv : v ∈ (build base r).validators) :
    v = .remove (anonymousDest base) ∧ ¬ (build base r).rule.Spares (anonymousDest base) := by
  obtain ⟨flags, prefixes, hkind⟩ := hkind
  have hwrites := not_spares_dest base r
  cases hdest : r.dest with
  | some dest => simp [build, countValidators, hkind, hrequired, hdefault, hdest] at hv
  | none =>
    refine ⟨?_, by rwa [hdest] at hwrites⟩
    simpa [build, countValidators, hkind, hrequired, hdefault, hdest] using hv

/-- The validators of an argument that asks for nothing remove what was made up for it. -/
theorem exists_remove_of_silent {a : Argument} {settings : Settings} {d : Declaration}
    (h : ofArgument base a settings {} = .ok d) (ha : a.Silent settings) (hv : v ∈ d.validators) :
    ∃ id, base ≤ id ∧ v = .remove (anonymousDest id) ∧ ¬ d.rule.Spares (anonymousDest id) := by
  obtain ⟨-, r, hr, hd⟩ := ofArgument_eq_ok.mp h
  obtain ⟨hkind, hrequired, hdefault⟩ := resolve_optional hr ha.optional
  have hnot : r.required = false := by
    rw [hrequired]
    cases hreq : a.required with
    | none => rfl
    | some required =>
      cases required with
      | false => rfl
      | true => exact absurd hreq ha.required
  have hnone : r.default = none := hdefault.trans ha.default
  obtain ⟨-, s, hs, rfl⟩ | ⟨-, rfl⟩ := applyAction_eq_ok.mp hd
  · have hflag : a.action.getD .store ≠ .storeTrue ∧ a.action.getD .store ≠ .storeFalse := by
      have haction := ha.action
      cases hact : a.action with
      | none => exact ⟨nofun, nofun⟩
      | some action =>
        rw [hact] at haction
        exact ⟨fun heq => haction.1 (congrArg some heq), fun heq => haction.2 (congrArg some heq)⟩
    obtain ⟨hrequired', hdefault', hkinds⟩ := adjust_keeps hs hflag
    obtain ⟨flags, prefixes, hoptional⟩ := hkind
    exact ⟨base, Nat.le_refl base, exists_remove_of_build (hkinds flags prefixes hoptional)
      (hrequired'.trans hnot) (hdefault'.trans hnone) hv⟩
  · have hflag (base : Nat) (value : Bool) (suffix : String)
        (hv : v ∈ (build base (flagVariant r value suffix)).validators) :
        v = .remove (anonymousDest base) ∧
          ¬ (build base (flagVariant r value suffix)).rule.Spares (anonymousDest base) := by
      have hkind : ∃ flags prefixes,
          (flagVariant r value suffix).kind = .optional flags prefixes := ⟨_, _, rfl⟩
      exact exists_remove_of_build hkind hnot hnone hv
    obtain hv | hv := List.mem_append.mp hv
    · obtain ⟨rfl, hwrites⟩ := hflag _ _ _ hv
      refine ⟨base, Nat.le_refl base, rfl, fun hspares => hwrites ?_⟩
      exact ((Rule.each_any ..).mp hspares).2 _ List.mem_cons_self
    · obtain ⟨rfl, hwrites⟩ := hflag _ _ _ hv
      refine ⟨base + buildWidth, Nat.le_add_right base _, rfl, fun hspares => hwrites ?_⟩
      exact ((Rule.each_any ..).mp hspares).2 _ (List.mem_cons_of_mem _ List.mem_cons_self)

end Declaration

namespace TokenParser

/-- Removing what is not there changes nothing. -/
theorem validate_removes {mode : Mode} {vs : List Validator} {ns : Namespace}
    (h : ∀ v ∈ vs, ∃ name, v = .remove name ∧ ns.get? name = none) :
    validate mode vs ns = .ok ns := by
  induction vs with
  | nil => rfl
  | cons v vs ih =>
    obtain ⟨⟨name, rfl, hnone⟩, hvs⟩ := List.forall_mem_cons.mp h
    have hremove : ns.remove name = ns := by
      refine Namespace.ext_get? fun other => ?_
      rw [Namespace.get?_remove]
      split
      · rename_i heq
        rw [heq, hnone]
      · rfl
    rw [validate, Validator.apply, hremove]
    exact ih hvs

end TokenParser

namespace ArgumentParser

/-- An optional argument that asks for nothing, declared behind all others, takes nothing from a
strict parse that ends well without it. -/
theorem Declares.parse_addArgument {p q : ArgumentParser} {calls : List Call} {a : Argument}
    {rule : Rule} (h : p.Declares calls) (hadd : p.addArgument a = .ok (rule, q))
    (ha : (a.inherit p.defaults).Silent p.settings) {seed : Option Namespace}
    (hfresh : ∀ name, ¬ rule.Spares name →
      (∀ call ∈ calls, ¬ call.Mentions name) ∧ (seed.getD .empty).get? name = none)
    (hhandlers : ∀ call ∈ calls, call.Handlers fun handler =>
      handler.Orderly ∧ ∀ name, ¬ rule.Spares name → handler.Keeps name)
    {tokens : List String} {ns : Namespace} (hparse : (p.parse tokens seed).1 = .ok ns) :
    (q.parse tokens seed).1 = .ok ns := by
  have hq : q.compile = ⟨q.rules, q.validators⟩ := (h.addArgument hadd).compile_eq
  obtain ⟨d, hd, rfl, rfl⟩ := addArgument_eq_ok.mp hadd
  rw [← ofArgument_inherit] at hd
  have hlibrary : ∀ r ∈ p.rules, r.Library fun handler =>
      handler.Orderly ∧ ∀ name, ¬ d.rule.Spares name → handler.Keeps name := fun r hr =>
    ((h.built hhandlers).sound (fun _ hb => ⟨Handler.orderly_of_builtIn hb,
      fun name _ => Handler.keeps_of_builtIn hb name⟩) r hr).1
  have hord : ∀ r ∈ p.rules, r.Orderly := fun r hr =>
    ((hlibrary r hr).orderlyRoot fun _ => And.left).orderly
  rw [ArgumentParser.parse, h.compile_eq] at hparse
  obtain ⟨st, hmatched, hvalid⟩ := (TokenParser.parseStrict_eq_ok hord).mp hparse
  -- what was made up for the argument is not there at the end
  have habsent : ∀ id, p.rules.length * Declaration.width ≤ id →
      ¬ d.rule.Spares (Declaration.anonymousDest id) →
        ns.get? (Declaration.anonymousDest id) = none := by
    intro id hid hwrites
    obtain ⟨hcalls, hseed⟩ := hfresh _ hwrites
    obtain ⟨hspares, hvalidators⟩ := Call.ignores_compile h.compile_calls hcalls fun id' heq => by
      rw [Nat.zero_add, ← Declaration.anonymousDest_inj heq]
      exact .inr hid
    rw [TokenParser.get?_validate (fun v hv => Validator.writes?_ne (hvalidators v hv)) hvalid,
      hmatched.attribute_eq hord fun r hr => ?_]
    · exact hseed
    · exact ((hlibrary r hr).of_handlers fun _ hok => ⟨hok.1, hok.2 _ hwrites⟩).keeps (hspares r hr)
  have hremoves : ∀ v ∈ d.validators, ∃ name, v = .remove name ∧ ns.get? name = none := by
    intro v hv
    obtain ⟨id, hid, rfl, hwrites⟩ := Declaration.exists_remove_of_silent hd ha hv
    exact ⟨_, rfl, habsent id hid hwrites⟩
  have hextended := hmatched.append [d.rule] (p.validators ++ d.validators)
  rw [ArgumentParser.parse, hq, hextended.parseStrict_eq (hmatched.savepoints_eq hord rfl),
    TokenParser.validate_append, hvalid]
  exact TokenParser.validate_removes hremoves

/-- A definition, with its value fused to the flag or behind it. -/
def definition : Argument := { names := ["-D"] }

/-- A flag that starts with that of the definition, and is not part of the result. -/
def exclusive : Argument :=
  { names := ["-Dx"], dest := .anonymous, action := some .storeConst,
    constant := some (.bool true) }

/-- The grammar of the definition, and the one with the flag behind it. -/
def defining : Except GrammarError (ArgumentParser × Rule × ArgumentParser) := do
  let (_, p) ← ({} : ArgumentParser).addArgument definition
  let (rule, q) ← p.addArgument exclusive
  return (p, rule, q)

/-- Where the definition takes the flag for its own, or for its value, it still does so when the
flag is declared behind it. -/
theorem Declares.parse_addArgument_exclusive :
    ∃ p rule q, defining = .ok (p, rule, q) ∧
      (p.parse ["-Dx", "-D", "-Dx"] none).1 = .ok (.ofList [("D", .str "-Dx")]) ∧
        (q.parse ["-Dx", "-D", "-Dx"] none).1 = .ok (.ofList [("D", .str "-Dx")]) := by
  have heval : defining.toOption.map (fun (p, rule, _) =>
      ((p.parse ["-Dx", "-D", "-Dx"] none).1, decide (rule.Spares "D"))) =
        some (.ok (.ofList [("D", .str "-Dx")]), true) := by
    decide +kernel
  have hresolve : (Declaration.resolve (definition.inherit {}) {}).map
      (fun r => (r.dest, r.rawDest)) = .ok (some "D", []) := by
    decide +kernel
  cases hdefining : defining with
  | error e => exact nomatch (congrArg Except.toOption hdefining ▸ heval)
  | ok grammars =>
    obtain ⟨p, rule, q⟩ := grammars
    rw [hdefining] at heval
    obtain ⟨hparse, hspares⟩ := Prod.mk.inj (Option.some.inj heval)
    obtain ⟨⟨_, p⟩, hp, h⟩ := Declaration.bind_eq_ok.mp hdefining
    obtain ⟨⟨rule, q⟩, hq, h⟩ := Declaration.bind_eq_ok.mp h
    cases h
    have hdeclares := Declares.new.addArgument hp
    obtain ⟨d, -, -, rfl⟩ := addArgument_eq_ok.mp hp
    have hsilent : (exclusive.inherit {}).Silent {} := ⟨by decide, by decide, rfl, by decide⟩
    refine ⟨_, _, _, rfl, hparse, ?_⟩
    refine Declares.parse_addArgument hdeclares hq hsilent ?_ ?_ hparse
    · refine fun name hwrites => ⟨List.forall_mem_singleton.mpr ?_, rfl⟩
      rintro ⟨r, hr, hdest⟩
      rw [hr] at hresolve
      obtain ⟨hname, hraw⟩ := Prod.mk.inj (Except.ok.inj hresolve)
      rw [hname, hraw] at hdest
      obtain hdest | hdest := hdest
      · obtain rfl := Option.some.inj hdest
        exact hwrites (of_decide_eq_true hspares)
      · exact nomatch hdest
    · exact List.forall_mem_singleton.mpr ⟨fun _ h => (nomatch h), fun _ h => (nomatch h)⟩

end ArgumentParser

end TokenGrammar
