import TokenGrammar.Proofs.Compilation
import TokenGrammar.Proofs.Lockstep

/-!
# Other names of destinations

The name of its destination does not matter for what an argument matches, nor for what is checked of
its values. With another name, or with none, the argument has a rule of the same shape and the same
validators about another attribute.

* `Declaration.resolve_anonymous`, `Declaration.adjust_dest`: the argument without the name;
* `Declaration.twin_build`, `Declaration.twin_flagPair`: its rule runs side by side with that of the
  argument with the name;
* `TokenParser.verdicts_of_renamed`: validators about the one attribute and about the other agree
  where both have the same value. `Declaration.renamed_checks`: those of an argument are such.
-/

namespace TokenGrammar

namespace Declaration

variable {base : Nat} {a : Argument} {settings : Settings} {d : String} {r s : ResolvedArgument}

theorem flags_anonymous {prefixChars : String} {spelled : Flags}
    (h : Flags.ofArgument { a with dest := .named d } prefixChars = .ok spelled) :
    spelled.dest = some d ∧ Flags.ofArgument { a with dest := .anonymous } prefixChars =
      .ok { spelled with dest := none } := by
  rw [Flags.ofArgument] at h ⊢
  split at h
  · exact nomatch h
  · rename_i hfind
    obtain rfl := Except.ok.inj h
    refine ⟨rfl, ?_⟩
    simp only [hfind]
    rfl

theorem resolveKind_anonymous {prefixChars : String} {kinded : Kinded}
    (h : resolveKind { a with dest := .named d } prefixChars = .ok kinded) :
    kinded.dest = some d ∧
      resolveKind { a with dest := .anonymous } prefixChars = .ok { kinded with dest := none } := by
  have hkind : isOptional { a with dest := .anonymous } prefixChars =
      isOptional { a with dest := .named d } prefixChars := rfl
  rw [resolveKind] at h ⊢
  rw [hkind]
  split at h
  · rename_i hoptional
    obtain ⟨spelled, hspelled, rfl⟩ := resolveOptional_eq_ok.mp h
    obtain ⟨hdest, hanonymous⟩ := flags_anonymous hspelled
    rw [if_pos hoptional]
    exact ⟨hdest, resolveOptional_eq_ok.mpr ⟨_, hanonymous, rfl⟩⟩
  · rename_i hpositional
    rw [resolvePositional] at h
    split at h
    · cases h
    · rename_i name hname
      obtain rfl := Except.ok.inj h
      rw [if_neg hpositional, resolvePositional]
      refine ⟨rfl, ?_⟩
      simp only [hname]

/-- Without its name the destination of an argument is anonymous, and nothing else changes. -/
theorem resolve_anonymous (h : resolve { a with dest := .named d } settings = .ok r) :
    r.dest = some d ∧
      resolve { a with dest := .anonymous } settings = .ok { r with dest := none } := by
  obtain ⟨regexp, kinded, hpattern, hkinded, rfl⟩ := resolve_eq_ok.mp h
  obtain ⟨hdest, hanonymous⟩ := resolveKind_anonymous hkinded
  exact ⟨hdest, resolve_eq_ok.mpr ⟨regexp, _, hpattern, hanonymous, rfl⟩⟩

theorem adjust_dest (x : Option String) (action : Action) :
    adjust { r with dest := x } action = (adjust r action).map ({ · with dest := x }) := by
  cases action with
  | storeConst | appendConst =>
    cases h : r.constant <;> simp [adjust, withConstant, h, Except.map]
  | _ => rfl

/-! ## Rules -/

section Rules

variable {N : Namespace → Namespace → Prop}

theorem confined_getD {handler? : Option Handler} (h : ∀ handler ∈ handler?, handler.Confined)
    {default : Handler} (hdefault : default.BuiltIn) : (handler?.getD default).Confined := by
  cases handler? with
  | none => exact Handler.confined_of_builtIn hdefault
  | some handler => exact h handler rfl

/-- The rules that take the values are twins where their handlers are. -/
theorem twin_setter {handler? : Option Handler} (h : ∀ handler ∈ handler?, handler.Confined)
    {dest dest' : String} (hdest : ∀ handler : Handler, handler.Confined →
      handler.Twins N dest handler dest')
    (id : Nat) (nargs : Option Nargs) (filter : ValueFilter) (accumulate : Bool) :
    Rule.Twin N (setter id dest nargs filter accumulate handler?)
      (setter id dest' nargs filter accumulate handler?) := by
  cases accumulate with
  | true =>
    refine Rule.twin_collect ⟨id, dest, Nargs.boundsOf nargs, filter⟩ (hdest _ ?_)
    refine confined_getD h ?_
    split <;> trivial
  | false =>
    refine Rule.twin_collect ⟨id, dest, Nargs.boundsOf nargs, filter⟩ (hdest _ ?_)
    refine confined_getD h ?_
    split <;> trivial

/-- What recognises an optional argument writes nothing, and is its own twin. -/
theorem twin_recognisers (base : Nat) (r : ResolvedArgument) (flags prefixes : List String) :
    List.Forall₂ (Rule.Twin N) (recognisers base r flags prefixes)
      (recognisers base r flags prefixes) := by
  refine List.forall₂_same.mpr fun q hq => Rule.Each.twin ?_
  have hlibrary : q.Library fun _ => True := (sound_recognisers flags prefixes q hq).library
  refine (hlibrary.and (dests_recognisers flags prefixes q hq)).mono fun t ht => ?_
  cases t with
  | collect collector handler => exact nomatch ht.2
  | capture id dests rule format handler =>
    obtain rfl : dests = [] := ht.2
    exact fun _ h => nomatch h
  | custom step => exact ht.1
  | _ => trivial

/-- A sequence that starts with a choice among no rules never matches, whatever else is in it. -/
theorem twin_all_any_nil (id id' : Nat) (rules rules' : List Rule) :
    Rule.Twin N (.all id (.any id' [] :: rules)) (.all id (.any id' [] :: rules')) := by
  have hnone (rules : List Rule) : Rule.runAll (.any id' [] :: rules) = pure false := by
    rw [Rule.runAll, Rule.run, Rule.runAny]
    rfl
  rw [Rule.Twin, Rule.run, Rule.run, hnone, hnone]
  exact (Step.Twin.pure false).attempt _

/-- An argument with another destination has a twin rule, if what it writes there is alike, or if
nothing selects it. -/
theorem twin_bareRule (hr : ∀ handler ∈ r.handler, handler.Confined) (base : Nat)
    (x : Option String)
    (hdest : r.kind = .optional [] [] ∨ ∀ handler : Handler, handler.Confined →
      handler.Twins N (r.dest.getD (anonymousDest base)) handler (x.getD (anonymousDest base))) :
    Rule.Twin N (bareRule base r) (bareRule base { r with dest := x }) := by
  rw [bareRule, bareRule]
  cases hkind : r.kind with
  | optional flags prefixes =>
    simp only
    rw [optionalRule, optionalRule]
    obtain hnothing | hdest := hdest
    · obtain ⟨rfl, rfl⟩ := ArgumentKind.optional.inj (hkind.symm.trans hnothing)
      have hempty (r : ResolvedArgument) : recognisers base r [] [] = [] := by simp [recognisers]
      rw [hempty, hempty]
      exact twin_all_any_nil _ _ _ _
    · have hsetter := twin_setter hr hdest (base + 5) r.nargs (valueFilter r) r.append
      have hselect := Rule.twin_any (N := N) (twin_recognisers base r flags prefixes) (base + 4)
      exact Rule.twin_all (.cons hselect (.cons hsetter .nil)) _
  | positional name =>
    simp only
    rw [positionalRule, positionalRule]
    have hdest := hdest.resolve_left (by simp [hkind])
    have hsetter := twin_setter hr hdest (base + 5) (if r.append then r.nargs else none)
      (valueFilter r) (r.append || r.nargs.isSome)
    have hflag (prefixes : List String) : Rule.Twin N
        (.not (base + 1) (.removePrefix prefixes false))
        (.not (base + 1) (.removePrefix prefixes false)) := Rule.Each.twin (by simp [Rule.Steady])
    have hlimit (nargs : Nargs) : Rule.Twin N (.limiter (base + 2) nargs)
        (.limiter (base + 2) nargs) := Rule.Each.twin (by simp [Rule.limiter, Rule.Steady])
    exact Rule.twin_all (.cons (hflag _) (.cons (hlimit _) (.cons hsetter .nil))) _

/-- An argument with another destination has a twin rule, if also what it writes for its tokens is
alike. -/
theorem twin_build (hr : r.Handlers Handler.Confined) (base : Nat) (x : Option String)
    (hdest : r.kind = .optional [] [] ∨ ∀ handler : Handler, handler.Confined →
      handler.Twins N (r.dest.getD (anonymousDest base)) handler (x.getD (anonymousDest base)))
    (hraw : ∀ handler : Handler, handler.Confined → ∀ dest ∈ r.rawDest,
      handler.Twins N dest handler dest) :
    Rule.Twin N (build base r).rule (build base { r with dest := x }).rule := by
  have hbare := twin_bareRule hr.1 base x hdest
  rw [rule_build, rule_build, withCapture, withCapture]
  split
  · exact hbare
  · have hhandler : (r.rawHandler.getD .appendOrExtend).Confined := confined_getD hr.2 trivial
    exact Rule.twin_capture hbare (List.forall₂_same.mpr (hraw _ hhandler)) _ _

theorem twin_flagPair (hr : r.Handlers Handler.Confined) (base : Nat) (x : Option String)
    (trueSuffix falseSuffix : String)
    (hdest : (∃ name, r.kind = .positional name) ∨ ∀ handler : Handler, handler.Confined →
      handler.Twins N (r.dest.getD (anonymousDest base)) handler (x.getD (anonymousDest base)) ∧
        handler.Twins N (r.dest.getD (anonymousDest (base + buildWidth))) handler
          (x.getD (anonymousDest (base + buildWidth))))
    (hraw : ∀ handler : Handler, handler.Confined → ∀ dest ∈ r.rawDest,
      handler.Twins N dest handler dest) :
    Rule.Twin N (flagPair base r trueSuffix falseSuffix).rule
      (flagPair base { r with dest := x } trueSuffix falseSuffix).rule := by
  have hnothing (value : Bool) (suffix : String) (h : ∃ name, r.kind = .positional name) :
      (flagVariant r value suffix).kind = .optional [] [] := by
    obtain ⟨name, hkind⟩ := h
    simp [flagVariant, hkind]
  have hon := twin_build (N := N) (r := flagVariant r true trueSuffix) hr base x
    (hdest.imp (hnothing true trueSuffix) fun h handler hh => (h handler hh).1) hraw
  have hoff := twin_build (N := N) (r := flagVariant r false falseSuffix) hr (base + buildWidth) x
    (hdest.imp (hnothing false falseSuffix) fun h handler hh => (h handler hh).2) hraw
  exact Rule.twin_any (.cons hon (.cons hoff .nil)) _

end Rules

end Declaration

/-! ## Validators about another attribute -/

/-- The errors are of one kind: they may be about other attributes and mention other contexts. -/
def Error.SameKind : Error → Error → Prop
  | .requiredAttributeMissing _ _, .requiredAttributeMissing _ _ => True
  | .notEnoughValues _ least values _, .notEnoughValues _ least' values' _
  | .tooManyValues _ least values _, .tooManyValues _ least' values' _ =>
    least' = least ∧ values' = values
  | e, e' => e' = e

theorem Error.SameKind.refl (e : Error) : e.SameKind e := by
  cases e with
  | notEnoughValues | tooManyValues => exact ⟨rfl, rfl⟩
  | requiredAttributeMissing => trivial
  | _ => exact rfl

theorem Error.SameKind.aborts {e e' : Error} (h : e.SameKind e') (mode : Mode) :
    mode.aborts e' = mode.aborts e := by
  cases mode with
  | strict => rw [Mode.aborts_strict, Mode.aborts_strict]
  | lenient dests => cases e <;> cases e' <;> first | rfl | cases h

/-- The validators of two parses end well, or fail with errors of one kind. -/
inductive Verdicts {α β : Type} : Except Error α → Except Error β → Prop where
  | pass (a : α) (b : β) : Verdicts (.ok a) (.ok b)
  | fail {e e' : Error} (h : e.SameKind e') : Verdicts (.error e) (.error e')

namespace Verdicts

variable {α β γ : Type} {x : Except Error α} {y : Except Error β}

theorem bind (h : Verdicts x y) {f : β → Except Error γ} (hf : ∀ b, ∃ c, f b = .ok c) :
    Verdicts x (y >>= f) := by
  cases h with
  | pass a b =>
    obtain ⟨c, hc⟩ := hf b
    have heq : (.ok b >>= f) = .ok c := hc
    rw [heq]
    exact .pass a c
  | fail hkind => exact .fail hkind

end Verdicts

/-- A validator and the same one about another attribute. -/
inductive Validator.Renamed (d e : String) : Validator → Validator → Prop where
  | require (context context' : Option String) :
      Renamed d e (.require d context) (.require e context')
  | default (value : Value) : Renamed d e (.default d value) (.default e value)
  | count (bounds : Bounds) (context : Option String) :
      Renamed d e (.count d bounds context) (.count e bounds context)

namespace Validator

variable {d e : String} {v v' : Validator} {ns ns' : Namespace}

theorem checkCount_renamed (bounds : Bounds) (context : Option String) (values : List Value) :
    (∃ x x', checkCount d bounds context values = .error x ∧
      checkCount e bounds context values = .error x' ∧ x.SameKind x') ∨
    checkCount d bounds context values = .ok () ∧ checkCount e bounds context values = .ok () := by
  rw [checkCount, checkCount]
  split
  · exact .inl ⟨_, _, rfl, rfl, rfl, rfl⟩
  · split
    · split
      · exact .inl ⟨_, _, rfl, rfl, rfl, rfl⟩
      · exact .inr ⟨rfl, rfl⟩
    · exact .inr ⟨rfl, rfl⟩

/-- Where both attributes have the same value, such validators fail alike or keep it so. -/
theorem Renamed.apply (h : Renamed d e v v') (heq : ns'.get? e = ns.get? d) :
    (∃ x x', v.apply ns = .error x ∧ v'.apply ns' = .error x' ∧ x.SameKind x') ∨
      ∃ ms ms', v.apply ns = .ok ms ∧ v'.apply ns' = .ok ms' ∧ ms'.get? e = ms.get? d := by
  have hcontains : ns'.contains e = ns.contains d := congrArg Option.isSome heq
  cases h with
  | require context context' =>
    rw [Validator.apply, Validator.apply, hcontains]
    split
    · exact .inr ⟨ns, ns', rfl, rfl, heq⟩
    · exact .inl ⟨_, _, rfl, rfl, trivial⟩
  | default value =>
    refine .inr ⟨_, _, rfl, rfl, ?_⟩
    rw [hcontains]
    split
    · exact heq
    · rw [Namespace.get?_set_self, Namespace.get?_set_self]
  | count bounds context =>
    simp only [Validator.apply, heq]
    cases ns.get? d with
    | none => exact .inr ⟨ns, ns', rfl, rfl, heq⟩
    | some value =>
      simp only
      obtain ⟨x, x', hx, hx', hkind⟩ | ⟨hok, hok'⟩ :=
        checkCount_renamed (d := d) (e := e) bounds context value.toList
      · rw [hx, hx']
        exact .inl ⟨x, x', rfl, rfl, hkind⟩
      · rw [hok, hok']
        exact .inr ⟨ns, ns', rfl, rfl, heq⟩

end Validator

namespace TokenParser

/-- Where both attributes have the same value, validators of the one and of the other agree. -/
theorem verdicts_of_renamed (h : List.Forall₂ (Validator.Renamed d e) vs vs')
    (heq : ns'.get? e = ns.get? d) : Verdicts (validate mode vs ns) (validate mode vs' ns') := by
  induction h generalizing ns ns' with
  | nil => exact .pass ns ns'
  | cons hv _ ih =>
    rw [validate, validate]
    obtain ⟨x, x', hx, hx', hkind⟩ | ⟨ms, ms', hms, hms', heq'⟩ := hv.apply heq
    · rw [hx, hx']
      simp only [hkind.aborts mode]
      split
      · exact .fail hkind
      · exact ih heq
    · rw [hms, hms']
      exact ih heq'

end TokenParser

/-! ## Validators of an argument -/

namespace Declaration

open TokenParser (validate)

variable {base : Nat} {r : ResolvedArgument}

/-- What is checked of the values of an argument, and mended. -/
def checks (r : ResolvedArgument) (dest : String) : List Validator :=
  countValidators r dest ++ (r.default.map (Validator.default dest)).toList ++
    if r.required then [.require dest (some (context r dest))] else []

theorem validators_build (base : Nat) (r : ResolvedArgument) :
    (build base r).validators = checks r (r.dest.getD (anonymousDest base)) ++
      if r.dest.isNone then [.remove (r.dest.getD (anonymousDest base))] else [] := rfl

/-- The same is checked, whatever the name of the destination. -/
theorem renamed_checks (r : ResolvedArgument) (d e : String) :
    List.Forall₂ (Validator.Renamed d e) (checks r d) (checks r e) := by
  have hcount :
      List.Forall₂ (Validator.Renamed d e) (countValidators r d) (countValidators r e) := by
    rw [countValidators, countValidators]
    split
    · exact .cons (.count _ _) .nil
    · exact .nil
  have hdefault : List.Forall₂ (Validator.Renamed d e) (r.default.map (Validator.default d)).toList
      (r.default.map (Validator.default e)).toList := by
    cases r.default with
    | none => exact .nil
    | some value => exact .cons (.default value) .nil
  refine List.rel_append (List.rel_append hcount hdefault) ?_
  split
  · exact .cons (.require _ _) .nil
  · exact .nil

/-- The checks of an optional argument that asks for nothing, or has a default, do not fail. -/
theorem exists_validate_checks (hkind : ∃ flags prefixes, r.kind = .optional flags prefixes)
    (hpass : r.required = true → r.default ≠ none) (mode : Mode) (dest : String) (ns : Namespace) :
    ∃ ms, validate mode (checks r dest) ns = .ok ms := by
  obtain ⟨flags, prefixes, hkind⟩ := hkind
  simp only [checks, countValidators, hkind, List.nil_append]
  cases hrequired : r.required with
  | false => cases r.default <;> exact ⟨_, rfl⟩
  | true =>
    obtain ⟨value, hvalue⟩ := Option.ne_none_iff_exists'.mp (hpass hrequired)
    have hset : (if ns.contains dest then ns else ns.set dest value).contains dest := by
      split
      · assumption
      · exact ns.contains_set_self dest value
    rw [hvalue]
    refine ⟨if ns.contains dest then ns else ns.set dest value, ?_⟩
    simp [validate, Validator.apply, hset]

/-- So do the validators of such an argument. -/
theorem exists_validate_build (base : Nat)
    (hkind : ∃ flags prefixes, r.kind = .optional flags prefixes)
    (hpass : r.required = true → r.default ≠ none) (mode : Mode) (ns : Namespace) :
    ∃ ms, validate mode (build base r).validators ns = .ok ms := by
  obtain ⟨mid, hmid⟩ :=
    exists_validate_checks hkind hpass mode (r.dest.getD (anonymousDest base)) ns
  rw [validators_build, TokenParser.validate_append, hmid]
  cases r.dest.isNone <;> exact ⟨_, rfl⟩

/-- The validators of a required argument without a default fail where its attribute is missing. -/
theorem validate_build_of_missing {ns : Namespace}
    (hkind : ∃ flags prefixes, r.kind = .optional flags prefixes) (hrequired : r.required = true)
    (hdefault : r.default = none) (hmissing : ns.get? (r.dest.getD (anonymousDest base)) = none) :
    ∃ dest context, validate .strict (build base r).validators ns =
      .error (.requiredAttributeMissing dest context) := by
  obtain ⟨flags, prefixes, hkind⟩ := hkind
  have hcontains : ns.contains (r.dest.getD (anonymousDest base)) = false := by
    rw [Namespace.contains, hmissing, Option.isSome_none]
  simp only [build, countValidators, hkind, hrequired, hdefault, Option.map_none,
    Option.toList_none, List.nil_append, if_true, List.cons_append]
  rw [validate, Validator.apply, hcontains]
  exact ⟨_, _, rfl⟩

/-- A flag and its opposite do not complain, unless they are required and have no default. -/
theorem exists_validate_flagPair (base : Nat) (trueSuffix falseSuffix : String) {mode : Mode}
    (hpass : mode = .strict → r.required = true → r.default ≠ none) (ns : Namespace) :
    ∃ ms, validate mode (flagPair base r trueSuffix falseSuffix).validators ns = .ok ms := by
  cases mode with
  | lenient dests => exact TokenParser.validate_lenient dests _ ns
  | strict =>
    obtain ⟨mid, hmid⟩ := exists_validate_build base (r := flagVariant r true trueSuffix)
      ⟨_, _, rfl⟩ (hpass rfl) .strict ns
    obtain ⟨ms, hms⟩ := exists_validate_build (base + buildWidth)
      (r := flagVariant r false falseSuffix) ⟨_, _, rfl⟩ (hpass rfl) .strict mid
    refine ⟨ms, ?_⟩
    rw [flagPair, TokenParser.validate_append, hmid]
    exact hms

end Declaration

end TokenGrammar
