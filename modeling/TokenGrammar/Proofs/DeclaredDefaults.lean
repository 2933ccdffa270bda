import TokenGrammar.Proofs.PositionalCounts

/-!
# Declared defaults

What stands at the destination of an argument that no tokens were taken for. Its validators put the
declared default there before they ask whether the attribute is required, so such an argument is
never missed. But a positional argument with a count that may be zero has a default of its own, which
takes the place of the declared one: no attribute at all, or no values.

* `Declaration.standIn`: what stands in for the values of an argument;
* `Declaration.validate_ofArgument_default`: the validators of an argument put it there;
* `TokenParser.validate_between_default`: so do all validators, if those of the others are about
  other attributes;
* `ArgumentParser.Declares.default_of_not_kept`: the result of every parse that keeps no match of an
  argument. `ArgumentParser.not_forall_default_of_not_kept`: it need not be the declared default.
-/

namespace TokenGrammar

namespace Declaration

open TokenParser (validate validate_append)

variable {base : Nat} {a : Argument} {settings : Settings} {r : ResolvedArgument} {d : Declaration}
  {mode : Mode} {dest : String} {ns : Namespace}

/-- What stands in for the values of an argument that is not matched: the declared default. For a
positional argument with a count that may be zero it is nothing, or the empty list. -/
def standIn (kind : ArgumentKind) (nargs : Option Nargs) (declared : Option Value) :
    Option Value :=
  match kind, nargs with
  | .positional _, some .optional => none
  | .positional _, some .zeroOrMore => some (.list [])
  | _, _ => declared

/-- The default of an argument as it is resolved. If one is declared, the argument is not required,
or has one. -/
theorem resolve_default (h : resolve a settings = .ok r) :
    r.default = standIn r.kind a.nargs a.default ∧
      (a.default ≠ none → r.required = true → r.default ≠ none) := by
  obtain ⟨regexp, kinded, -, hkinded, rfl⟩ := resolve_eq_ok.mp h
  rw [resolveKind] at hkinded
  split at hkinded
  · obtain ⟨spelled, -, rfl⟩ := resolveOptional_eq_ok.mp hkinded
    exact ⟨rfl, fun hdefault _ => hdefault⟩
  · rw [resolvePositional] at hkinded
    split at hkinded
    · cases hkinded
    · obtain rfl := Except.ok.inj hkinded
      cases hnargs : a.nargs with
      | none => simp [ofKinded, standIn, hnargs]
      | some nargs => cases nargs <;> simp [ofKinded, standIn, hnargs]

/-! ## Validators of an argument -/

/-- An argument without values gets its default. -/
theorem validate_checks_of_missing (hpass : r.required = true → r.default ≠ none)
    (hmissing : ns.get? dest = none) :
    validate mode (checks r dest) ns = .ok (r.default.elim ns (ns.set dest)) := by
  have hcount : validate mode (countValidators r dest) ns = .ok ns := by
    rw [countValidators]
    split
    · simp only [validate, Validator.apply, hmissing]
    · rfl
  have habsent : ns.contains dest = false := by rw [Namespace.contains, hmissing]; rfl
  rw [checks, List.append_assoc, validate_append, hcount]
  show validate mode ((r.default.map (Validator.default dest)).toList ++ _) ns = _
  cases hdefault : r.default with
  | none =>
    rw [if_neg fun hrequired => hpass hrequired hdefault]
    rfl
  | some value =>
    cases r.required <;>
      simp [validate, Validator.apply, habsent, ns.contains_set_self dest value]

/-- A flag that has its value already keeps it. -/
theorem validate_checks_of_contains (hkind : ∃ flags prefixes, r.kind = .optional flags prefixes)
    (hthere : ns.contains dest = true) : validate mode (checks r dest) ns = .ok ns := by
  obtain ⟨flags, prefixes, hkind⟩ := hkind
  rw [checks, countValidators, hkind]
  cases r.default <;> cases r.required <;> simp [validate, Validator.apply, hthere]

theorem validate_build_default (hdest : r.dest = some dest)
    (hpass : r.required = true → r.default ≠ none) (hmissing : ns.get? dest = none) (base : Nat) :
    validate mode (build base r).validators ns = .ok (r.default.elim ns (ns.set dest)) := by
  rw [validators_build, hdest, Option.isNone_some, if_neg Bool.false_ne_true, List.append_nil]
  exact validate_checks_of_missing hpass hmissing

/-- A flag and its opposite have one default, and the first one of them sets it. -/
theorem validate_flagPair_default (hdest : r.dest = some dest)
    (hpass : r.required = true → r.default ≠ none) (hmissing : ns.get? dest = none) (base : Nat)
    (trueSuffix falseSuffix : String) :
    validate mode (flagPair base r trueSuffix falseSuffix).validators ns =
      .ok (r.default.elim ns (ns.set dest)) := by
  have hon : validate mode (build base (flagVariant r true trueSuffix)).validators ns =
      .ok (r.default.elim ns (ns.set dest)) :=
    validate_build_default (r := flagVariant r true trueSuffix) hdest hpass hmissing base
  rw [flagPair, validate_append, hon]
  show validate mode (build _ (flagVariant r false falseSuffix)).validators _ = _
  cases hdefault : r.default with
  | none =>
    have hoff : validate mode (build (base + buildWidth) (flagVariant r false falseSuffix)).validators
        ns = .ok (r.default.elim ns (ns.set dest)) :=
      validate_build_default (r := flagVariant r false falseSuffix) hdest hpass hmissing _
    rwa [hdefault] at hoff
  | some value =>
    have hvariant : (flagVariant r false falseSuffix).dest = some dest := hdest
    rw [validators_build, hvariant, Option.isNone_some, if_neg Bool.false_ne_true, List.append_nil]
    exact validate_checks_of_contains ⟨_, _, rfl⟩ (ns.contains_set_self dest value)

/-- The validators of an argument give its attribute what stands in for its values, where it is
missing, and have nothing to complain about. -/
theorem validate_ofArgument_default (h : ofArgument base a settings {} = .ok d)
    (hresolve : resolve a settings = .ok r) (hdest : r.dest = some dest)
    (haction : a.action.getD .store ≠ .storeTrue ∧ a.action.getD .store ≠ .storeFalse)
    (hdefault : a.default ≠ none) (hmissing : ns.get? dest = none) :
    validate mode d.validators ns = .ok (r.default.elim ns (ns.set dest)) := by
  have hpass := (resolve_default hresolve).2 hdefault
  obtain ⟨-, r', hresolve', happly⟩ := ofArgument_eq_ok.mp h
  obtain rfl := Except.ok.inj (hresolve.symm.trans hresolve')
  obtain ⟨-, s, hadjust, rfl⟩ | ⟨-, rfl⟩ := applyAction_eq_ok.mp happly
  · obtain ⟨hrequired, hsame, -⟩ := adjust_keeps hadjust haction
    rw [← hrequired, ← hsame] at hpass
    rw [← hsame]
    exact validate_build_default ((adjust_alike hadjust).dest.trans hdest) hpass hmissing base
  · exact validate_flagPair_default hdest hpass hmissing base _ _

end Declaration

namespace TokenParser

/-- Among validators that are about other attributes, an attribute that is missing gets a default and
is not missed. -/
theorem validate_between_default {mode : Mode} {front back : TokenParser} {d : Declaration}
    {dest : String} {default : Option Value} (hfront : front.Ignores dest)
    (hback : back.Ignores dest)
    (hown : ∀ ns, ns.get? dest = none →
      validate mode d.validators ns = .ok (default.elim ns (ns.set dest)))
    {ns : Namespace} (hmissing : ns.get? dest = none) :
    (∀ ns', validate mode (front.between d back).validators ns = .ok ns' →
      ns'.get? dest = default) ∧
    ∀ context, validate mode (front.between d back).validators ns ≠
      .error (.requiredAttributeMissing dest context) := by
  have hvalidators : (front.between d back).validators =
      front.validators ++ (d.validators ++ back.validators) := rfl
  rw [hvalidators, validate_append]
  cases hmid : validate mode front.validators ns with
  | error e =>
    refine ⟨nofun, ?_⟩
    rintro context ⟨⟩
    exact validate_ne_requiredAttributeMissing hfront.2 ns context hmid
  | ok mid =>
    have hstill : mid.get? dest = none :=
      (get?_validate (fun v hv => Validator.writes?_ne (hfront.2 v hv)) hmid).trans hmissing
    have hset : (default.elim mid (mid.set dest)).get? dest = default := by
      cases default with
      | none => exact hstill
      | some value => exact mid.get?_set_self dest value
    have hrest : (Except.ok mid >>= validate mode (d.validators ++ back.validators)) =
        validate mode back.validators (default.elim mid (mid.set dest)) := by
      show validate mode (d.validators ++ back.validators) mid = _
      rw [validate_append, hown mid hstill]
      rfl
    rw [hrest]
    refine ⟨fun ns' hns' => ?_, validate_ne_requiredAttributeMissing hback.2 _⟩
    rw [get?_validate (fun v hv => Validator.writes?_ne (hback.2 v hv)) hns', hset]

end TokenParser

namespace ArgumentParser

variable {q : ArgumentParser} {before after : List Call} {settings : Settings} {a : Argument}
  {i : Nat} {dest : String}

/-- The rules of a grammar with handlers that write what they are told to. -/
theorem Declares.local_keeps {calls : List Call} (h : q.Declares calls)
    (hhandlers : ∀ call ∈ calls,
      call.Handlers fun handler => handler.Local ∧ handler.Keeps dest) :
    ∀ r ∈ q.compile.rules,
      (r.Library fun handler => handler.Local ∧ handler.Keeps dest) ∧ r.Apart := by
  rw [h.compile_eq]
  exact (h.built hhandlers).sound fun _ hb => Handler.local_keeps_of_builtIn hb dest

/-- An attribute that is not there at the start is not there at the end of the tokens either, if one
argument at most writes it and none of its matches is kept. -/
theorem Declares.missing_of_not_kept (h : q.Declares (before ++ .argument settings a :: after))
    (hi : (Call.arguments before).length = i)
    (hbefore : ∀ p, Call.compile 0 before = .ok p → p.Ignores dest)
    (hafter : ∀ p, Call.compile (i + 1) after = .ok p → p.Ignores dest)
    (hhandlers : ∀ call ∈ before ++ .argument settings a :: after,
      call.Handlers fun handler => handler.Local ∧ handler.Keeps dest)
    {mode : Mode} (hunknown : dest ∉ mode.unknownDest) {seed : Option Namespace}
    (hseed : (seed.getD .empty).get? dest = none) {tokens : List String}
    (hnone : q.compile.kept mode i tokens.length (.start tokens seed) = []) :
    q.compile.Sound ∧ ∃ unparsed st,
      q.compile.consumeAll mode tokens.length (.start tokens seed) = .ok unparsed st ∧
        st.attributes.get? dest = none := by
  obtain ⟨front, d, back, hfront, -, hback, hlength, hcompile⟩ := h.exists_between hi
  have hrules := h.local_keeps hhandlers
  have hsound : q.compile.Sound := fun r hr =>
    ⟨(hrules r hr).1.of_handlers fun _ => And.left, (hrules r hr).2⟩
  have hrule : q.compile.rules[i]? = some d.rule := by
    rw [hcompile, ← hlength]
    exact TokenParser.getElem?_between front d back
  have hothers : ∀ j other, j ≠ i → q.compile.rules[j]? = some other → ∀ st st',
      st.savepoints = [] → other.alone st = some st' →
        st'.attribute? dest = st.attribute? dest := by
    intro j other hj hother st st' hst halone
    obtain ⟨hlibrary, hapart⟩ := hrules other (List.mem_of_getElem? hother)
    rw [hcompile] at hother
    rw [← hlength] at hj
    have hspares := (TokenParser.mem_of_between hj hother).elim
      ((hbefore front hfront).1 other) ((hafter back hback).1 other)
    exact hlibrary.attribute?_of_alone hapart hspares hst halone
  have hst : (State.start tokens seed).savepoints = [] := rfl
  obtain ⟨unparsed, st, hrun, -⟩ :=
    hsound.scan mode hst (Nat.le_of_eq (TokenBuffer.size_ofTokens tokens))
  refine ⟨hsound, unparsed, st, hrun, ?_⟩
  exact (hsound.attribute_of_kept_eq_nil hrule hothers hunknown hst hrun hnone).trans hseed

/-- If no match of an argument with a declared default is kept, the result of a parse has at its
destination what stands in for its values, and it is not missed, whatever else the parse complains
about. Nothing else may have to do with the destination. Handlers may be the user's own, if they work
through the operations of the state and write what they are told to. -/
theorem Declares.default_of_not_kept (h : q.Declares (before ++ .argument settings a :: after))
    (hi : (Call.arguments before).length = i) {resolved : ResolvedArgument}
    (hresolve : Declaration.resolve a settings = .ok resolved) (hdest : resolved.dest = some dest)
    (haction : a.action.getD .store ≠ .storeTrue ∧ a.action.getD .store ≠ .storeFalse)
    {value : Value} (hdefault : a.default = some value)
    (hbefore : ∀ p, Call.compile 0 before = .ok p → p.Ignores dest)
    (hafter : ∀ p, Call.compile (i + 1) after = .ok p → p.Ignores dest)
    (hhandlers : ∀ call ∈ before ++ .argument settings a :: after,
      call.Handlers fun handler => handler.Local ∧ handler.Keeps dest)
    {mode : Mode} (hunknown : dest ∉ mode.unknownDest) {seed : Option Namespace}
    (hseed : (seed.getD .empty).get? dest = none) {tokens : List String}
    (hnone : q.compile.kept mode i tokens.length (.start tokens seed) = []) :
    (∀ ns unparsed, q.compile.parse mode tokens seed = .ok (ns, unparsed) →
      ns.get? dest = Declaration.standIn resolved.kind a.nargs (some value)) ∧
    ∀ context, q.compile.parse mode tokens seed ≠
      .error (.requiredAttributeMissing dest context) := by
  obtain ⟨hsound, unparsed, st, hrun, hmissing⟩ :=
    h.missing_of_not_kept hi hbefore hafter hhandlers hunknown hseed hnone
  obtain ⟨front, d, back, hfront, hd, hback, -, hcompile⟩ := h.exists_between hi
  have hdeclared : a.default ≠ none := by
    rw [hdefault]
    exact Option.some_ne_none value
  have hown (ns : Namespace) (hns : ns.get? dest = none) :
      TokenParser.validate mode d.validators ns =
        .ok (resolved.default.elim ns (ns.set dest)) :=
    Declaration.validate_ofArgument_default hd hresolve hdest haction hdeclared hns
  obtain ⟨hresult, hfound⟩ := TokenParser.validate_between_default (hbefore front hfront)
    (hafter back hback) hown hmissing
  rw [← hcompile] at hresult hfound
  refine ⟨fun ns unparsed hparse => ?_, fun context hparse => ?_⟩
  · rw [hresult ns (hsound.validate_of_parse hrun hparse), (Declaration.resolve_default hresolve).1,
      hdefault]
  · exact hfound context (hsound.validate_of_parse_error trivial hrun hparse)

/-- A file that is asked for, but has a name if none is given. -/
def executable : Argument :=
  { names := ["-o", "--output"], required := some true, default := some (.str "a.out") }

/-- An executable of files. -/
def linker : Except GrammarError ArgumentParser := do
  let (_, p) ← ({} : ArgumentParser).addArgument executable
  let (_, q) ← p.addArgument files
  return q

theorem Declares.default_of_not_kept_linker :
    ∃ q ns, linker = .ok q ∧ q.compile.parse .strict ["x.o"] none = .ok (ns, []) ∧
      ns.get? "output" = some (.str "a.out") := by
  have heval : linker.toOption.map (fun q => ((q.compile.parse .strict ["x.o"] none).map (·.2),
      (q.compile.kept .strict 0 1 (.start ["x.o"] none)).isEmpty)) = some (.ok [], true) := by
    decide +kernel
  have hfiles : (Declaration.resolve (files.inherit {}) {}).map (fun r => (r.dest, r.rawDest)) =
      .ok (some "files", []) := by decide +kernel
  cases hq : linker with
  | error e => exact nomatch (congrArg Except.toOption hq ▸ heval)
  | ok q =>
    rw [hq] at heval
    obtain ⟨hparse, hkept⟩ := Prod.mk.inj (Option.some.inj heval)
    obtain ⟨⟨_, p⟩, hadd, h⟩ := Declaration.bind_eq_ok.mp hq
    obtain ⟨⟨_, q⟩, hadd', h⟩ := Declaration.bind_eq_ok.mp h
    obtain rfl := Except.ok.inj h
    have hdeclares : q.Declares ([] ++ .argument {} (executable.inherit {}) ::
        [.argument {} (files.inherit {})]) := by
      obtain ⟨d, -, -, rfl⟩ := addArgument_eq_ok.mp hadd
      exact (Declares.new.addArgument hadd).addArgument hadd'
    obtain ⟨resolved, hresolve, hdest, hkind⟩ :
        ∃ resolved, Declaration.resolve (executable.inherit {}) {} = .ok resolved ∧
          resolved.dest = some "output" ∧
          resolved.kind = .optional ["--output", "-o"] ["--output=", "-o"] := ⟨_, rfl, rfl, rfl⟩
    have hbefore : ∀ p, Call.compile 0 [] = .ok p → p.Ignores "output" := by
      rintro _ ⟨⟩
      exact ⟨nofun, nofun⟩
    have hafter : ∀ p, Call.compile 1 [.argument {} (files.inherit {})] = .ok p →
        p.Ignores "output" := by
      intro p hp
      refine Call.ignores_compile hp (List.forall_mem_singleton.mpr ?_) fun id heq =>
        absurd heq (Declaration.ne_anonymousDest (by decide +kernel) id)
      rintro ⟨r, hr, hmentions⟩
      rw [hr] at hfiles
      obtain ⟨hfiles, hraw⟩ := Prod.mk.inj (Except.ok.inj hfiles)
      rw [hfiles, hraw] at hmentions
      exact absurd hmentions (by decide)
    have hhandlers : ∀ call ∈ [] ++ .argument {} (executable.inherit {}) ::
        [.argument {} (files.inherit {})],
        Call.Handlers (fun handler => handler.Local ∧ handler.Keeps "output") call :=
      List.forall_mem_cons.mpr ⟨⟨nofun, nofun⟩, List.forall_mem_singleton.mpr ⟨nofun, nofun⟩⟩
    have hunknown : "output" ∉ Mode.strict.unknownDest := List.not_mem_nil
    have hseed : ((none : Option Namespace).getD .empty).get? "output" = none := rfl
    have hnone : q.compile.kept .strict 0 ["x.o"].length (.start ["x.o"] none) = [] :=
      List.isEmpty_iff.mp hkept
    obtain ⟨hresult, -⟩ := hdeclares.default_of_not_kept rfl hresolve hdest (by decide) rfl hbefore
      hafter hhandlers hunknown hseed hnone
    cases houtcome : q.compile.parse .strict ["x.o"] none with
    | error e => exact nomatch houtcome ▸ hparse
    | ok outcome =>
      rw [houtcome] at hparse
      obtain ⟨ns, unparsed⟩ := outcome
      obtain rfl : unparsed = [] := Except.ok.inj hparse
      refine ⟨q, ns, rfl, houtcome, ?_⟩
      rw [hresult ns [] houtcome, hkind]
      rfl

/-- A positional argument that may be missing, with a default. -/
def optionalFile : Argument :=
  { names := ["file"], nargs := some .optional, default := some (.str "a.out") }

/-- The default that a positional argument declares is lost where its count may be zero. -/
theorem not_forall_default_of_not_kept :
    ¬ ∀ (q : ArgumentParser) (settings : Settings) (a : Argument) (resolved : ResolvedArgument)
        (dest : String) (value : Value), q.Declares [.argument settings a] →
      Declaration.resolve a settings = .ok resolved → resolved.dest = some dest →
      a.action = none → a.handler = none → a.rawDest = none → a.default = some value →
      ∀ tokens ns, q.compile.kept .strict 0 tokens.length (.start tokens none) = [] →
        (q.parse tokens none).1 = .ok ns → ns.get? dest = some value := by
  intro hall
  have heval : (({} : ArgumentParser).addArgument optionalFile).map
      (fun (_, q) => (q.parse [] none).1) = .ok (.ok .empty) := by
    decide +kernel
  obtain ⟨resolved, hresolve, hdest⟩ :
      ∃ resolved, Declaration.resolve (optionalFile.inherit {}) {} = .ok resolved ∧
        resolved.dest = some "file" := ⟨_, rfl, rfl⟩
  cases hadd : ({} : ArgumentParser).addArgument optionalFile with
  | error e => exact nomatch hadd ▸ heval
  | ok added =>
    rw [hadd] at heval
    have hvalue := hall added.2 {} (optionalFile.inherit {}) resolved "file" (.str "a.out")
      (Declares.new.addArgument hadd) hresolve hdest rfl rfl rfl rfl [] .empty rfl
      (Except.ok.inj heval)
    exact nomatch hvalue

end ArgumentParser

end TokenGrammar
