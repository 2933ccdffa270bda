import TokenGrammar.ArgumentParser
import TokenGrammar.Proofs.Recording
import TokenGrammar.Proofs.RuleTree

/-!
# Grammars of declared arguments

What all rules have in common that an argument parser is made of, however the arguments are
declared. They are library rules, with the handlers that the arguments were declared with, and no
rule stands below one with its number.

* `Declaration.sound_build`, `Declaration.sound_flagPair`: the rules of one declaration;
* `Declaration.resolve_eq_ok`: what an argument is resolved to, by its kind;
* `Declaration.applyAction_cases`: whatever its action, an argument becomes one rule, or a choice
  between two. `Declaration.rule_induction` is the induction on this;
* `ArgumentParser.Built`: the argument parsers that the calls of the facade lead to;
* `ArgumentParser.Built.sound`, `ArgumentParser.Built.rules_compile`: what holds of all of them, by
  induction on the calls. A token parser that is kept is still the one of the declared arguments.
-/

namespace TokenGrammar

/-! ## Rules of a range of numbers -/

namespace Rule

/-- The rules of the tree have their numbers from `lo` on and before `hi`. -/
def Within (lo hi : Nat) (rule : Rule) : Prop :=
  rule.Each fun r => ∀ owner, r.owner? = some owner → ∃ id, owner = .rule id ∧ lo ≤ id ∧ id < hi

theorem Within.avoids {lo hi id : Nat} {rule : Rule} (h : rule.Within lo hi)
    (hid : id < lo ∨ hi ≤ id) : rule.Avoids (.rule id) := by
  refine Each.mono (fun r hr ho => ?_) h
  obtain ⟨id', heq, hlo, hhi⟩ := hr _ ho
  obtain rfl := Owner.rule.inj heq
  omega

theorem Within.mono {lo hi lo' hi' : Nat} {rule : Rule} (h : rule.Within lo hi) (hlo : lo' ≤ lo)
    (hhi : hi ≤ hi') : rule.Within lo' hi' := by
  refine Each.mono (fun r hr owner ho => ?_) h
  obtain ⟨id, rfl, h1, h2⟩ := hr owner ho
  exact ⟨id, rfl, by omega, by omega⟩

/-- A library rule with handlers of a kind, apart from the rules below it, with the numbers of a
range. -/
structure Sound (ok : Handler → Prop) (lo hi : Nat) (rule : Rule) : Prop where
  library : rule.Library ok
  apart : rule.Apart
  within : rule.Within lo hi

namespace Sound

variable {ok : Handler → Prop} {lo hi lo' hi' id : Nat} {rule : Rule}

theorem mono (h : rule.Sound ok lo hi) (hlo : lo' ≤ lo) (hhi : hi ≤ hi') :
    rule.Sound ok lo' hi' := ⟨h.library, h.apart, h.within.mono hlo hhi⟩

/-- A rule without a number and without rules below it. -/
theorem leaf (hlib : OfLibrary ok rule) (hs : rule.subrules = []) (ho : rule.owner? = none) :
    rule.Sound ok lo hi := by
  refine ⟨(each_iff_of_subrules hs).mpr hlib, (each_iff_of_subrules hs).mpr ?_,
    (each_iff_of_subrules hs).mpr ?_⟩
  · rw [ho]
    exact fun _ h => nomatch h
  · rw [ho]
    exact fun _ h => nomatch h

/-- A rule with a number of its own above rules whose numbers are in a range. -/
theorem node (ho : rule.owner? = some (.rule id)) (hlib : OfLibrary ok rule)
    (hsubs : ∀ r ∈ rule.subrules, r.Sound ok lo hi) (hid : id < lo ∨ hi ≤ id) (hlo : lo' ≤ lo)
    (hhi : hi ≤ hi') (hrange : lo' ≤ id ∧ id < hi') : rule.Sound ok lo' hi' := by
  refine ⟨.intro hlib fun r hr => (hsubs r hr).library,
    .intro ?_ fun r hr => (hsubs r hr).apart,
    .intro ?_ fun r hr => (hsubs r hr).within.mono hlo hhi⟩
  · rintro owner howner q hq
    obtain rfl := Option.some.inj (ho.symm.trans howner)
    exact (hsubs q hq).within.avoids hid
  · rintro owner howner
    obtain rfl := Option.some.inj (ho.symm.trans howner)
    exact ⟨id, rfl, hrange⟩

end Sound

end Rule

/-! ## Rules of one declaration -/

/-- The handlers of an argument are of a kind. -/
def ResolvedArgument.Handlers (ok : Handler → Prop) (r : ResolvedArgument) : Prop :=
  (∀ h ∈ r.handler, ok h) ∧ ∀ h ∈ r.rawHandler, ok h

/-- The handlers of an argument are of a kind. -/
def Argument.Handlers (ok : Handler → Prop) (a : Argument) : Prop :=
  (∀ h ∈ a.handler, ok h) ∧ ∀ h ∈ a.rawHandler, ok h

theorem ResolvedArgument.Handlers.mono {ok ok' : Handler → Prop} {r : ResolvedArgument}
    (h : r.Handlers ok) (hok : ∀ handler, ok handler → ok' handler) : r.Handlers ok' :=
  ⟨fun handler hmem => hok _ (h.1 handler hmem), fun handler hmem => hok _ (h.2 handler hmem)⟩

theorem Argument.Handlers.mono {ok ok' : Handler → Prop} {a : Argument}
    (h : a.Handlers ok) (hok : ∀ handler, ok handler → ok' handler) : a.Handlers ok' :=
  ⟨fun handler hmem => hok _ (h.1 handler hmem), fun handler hmem => hok _ (h.2 handler hmem)⟩

/-- The second argument stores and records like the first, whatever it matches. -/
structure ResolvedArgument.Alike (r s : ResolvedArgument) : Prop where
  dest : s.dest = r.dest
  handler : s.handler = r.handler
  rawDest : s.rawDest = r.rawDest
  rawFormat : s.rawFormat = r.rawFormat
  rawHandler : s.rawHandler = r.rawHandler

/-- An argument that is alike has handlers of the same kind. -/
theorem ResolvedArgument.Alike.handlers {ok : Handler → Prop} {r s : ResolvedArgument}
    (h : r.Alike s) (hr : r.Handlers ok) : s.Handlers ok :=
  ⟨h.handler ▸ hr.1, h.rawHandler ▸ hr.2⟩

namespace Declaration

variable {ok : Handler → Prop} {base : Nat} {r : ResolvedArgument}

theorem bind_eq_ok {ε α β : Type} {x : Except ε α} {f : α → Except ε β} {b : β} :
    (x >>= f) = .ok b ↔ ∃ a, x = .ok a ∧ f a = .ok b := by
  cases x <;> simp [bind, Except.bind]

/-- The handler of the rule that takes the values. -/
def setterHandler (nargs : Option Nargs) (accumulate : Bool) (handler : Option Handler) : Handler :=
  handler.getD <|
    if accumulate then if Nargs.isScalar nargs then .extend else .append
    else if Nargs.isScalar nargs then .setFirst else .set

theorem setter_eq_collect (id : Nat) (dest : String) (nargs : Option Nargs) (filter : ValueFilter)
    (accumulate : Bool) (handler : Option Handler) :
    setter id dest nargs filter accumulate handler =
      .collect ⟨id, dest, Nargs.boundsOf nargs, filter⟩
        (setterHandler nargs accumulate handler) := by
  cases accumulate <;> rfl

theorem ok_setterHandler (hb : ∀ h : Handler, h.BuiltIn → ok h) {handler : Option Handler}
    (hh : ∀ h ∈ handler, ok h) (nargs : Option Nargs) (accumulate : Bool) :
    ok (setterHandler nargs accumulate handler) := by
  rw [setterHandler]
  cases handler with
  | none =>
    refine hb _ ?_
    cases accumulate <;> cases Nargs.isScalar nargs <;> trivial
  | some h => exact hh h rfl

/-- The rule that takes the values, with the number and the destination that it is given. -/
theorem setter_eq (hb : ∀ h : Handler, h.BuiltIn → ok h) {handler : Option Handler}
    (hh : ∀ h ∈ handler, ok h) (id : Nat) (dest : String) (nargs : Option Nargs)
    (filter : ValueFilter) (accumulate : Bool) :
    ∃ c h, setter id dest nargs filter accumulate handler = .collect c h ∧ c.id = id ∧
      c.dest = dest ∧ ok h :=
  ⟨_, _, setter_eq_collect .., rfl, rfl, ok_setterHandler hb hh nargs accumulate⟩

theorem sound_setter (hb : ∀ h : Handler, h.BuiltIn → ok h) {handler : Option Handler}
    (hh : ∀ h ∈ handler, ok h) {id lo hi : Nat} (hrange : lo ≤ id ∧ id < hi) (dest : String)
    (nargs : Option Nargs) (filter : ValueFilter) (accumulate : Bool) :
    (setter id dest nargs filter accumulate handler).Sound ok lo hi := by
  obtain ⟨c, h, hset, rfl, -, hok⟩ := setter_eq hb hh id dest nargs filter accumulate
  rw [hset]
  exact .node rfl hok (by rintro _ ⟨⟩) (Or.inl hrange.2) (by omega) (Nat.le_refl hi) hrange

/-- An optional argument is recognised by a flag, or by a prefix of a token that does not end
there. -/
theorem eq_of_mem_recognisers {flags prefixes : List String} {q : Rule}
    (h : q ∈ recognisers base r flags prefixes) :
    q = .all (base + 1) [.oneOf flags r.ignoreCase, .skip 1] ∨
      q = .all (base + 2) [.removePrefix prefixes r.ignoreCase, .not (base + 3) .isEmpty] := by
  rw [recognisers, List.mem_append] at h
  refine h.imp (fun h => ?_) fun h => ?_
  · split at h
    · cases h
    · exact List.mem_singleton.mp h
  · split at h
    · cases h
    · exact List.mem_singleton.mp h

theorem sound_recognisers (flags prefixes : List String) :
    ∀ q ∈ recognisers base r flags prefixes, q.Sound ok base (base + 4) := by
  intro q hq
  obtain rfl | rfl := eq_of_mem_recognisers hq
  · have hsubs : ∀ q ∈ [Rule.oneOf flags r.ignoreCase, .skip 1], q.Sound ok base base :=
      List.forall_mem_cons.mpr
        ⟨.leaf trivial rfl rfl, List.forall_mem_singleton.mpr (.leaf trivial rfl rfl)⟩
    exact .node rfl trivial hsubs (by omega) (by omega) (by omega) (by omega)
  · have hempty : ∀ q ∈ [Rule.isEmpty], q.Sound ok (base + 3) (base + 3) :=
      List.forall_mem_singleton.mpr (.leaf trivial rfl rfl)
    have hnot : (Rule.not (base + 3) .isEmpty).Sound ok (base + 3) (base + 4) :=
      .node rfl trivial hempty (by omega) (by omega) (by omega) (by omega)
    have hsubs : ∀ q ∈ [Rule.removePrefix prefixes r.ignoreCase, .not (base + 3) .isEmpty],
        q.Sound ok (base + 3) (base + 4) :=
      List.forall_mem_cons.mpr ⟨.leaf trivial rfl rfl, List.forall_mem_singleton.mpr hnot⟩
    exact .node rfl trivial hsubs (by omega) (by omega) (by omega) (by omega)

/-- The choice between the ways to recognise an optional argument. -/
theorem sound_recognised (flags prefixes : List String) :
    (Rule.any (base + 4) (recognisers base r flags prefixes)).Sound ok base (base + 6) :=
  .node rfl trivial (sound_recognisers flags prefixes) (by omega) (by omega) (by omega) (by omega)

theorem sound_optionalRule (hb : ∀ h : Handler, h.BuiltIn → ok h) (hr : r.Handlers ok)
    (dest : String) (flags prefixes : List String) :
    (optionalRule base r dest flags prefixes).Sound ok base (base + 7) := by
  have hany : (Rule.any (base + 4) (recognisers base r flags prefixes)).Sound ok base (base + 6) :=
    sound_recognised flags prefixes
  have hsetter : (setter (base + 5) dest r.nargs (valueFilter r) r.append r.handler).Sound ok base
      (base + 6) := sound_setter hb hr.1 (by omega) ..
  have hsubs := List.forall_mem_cons.mpr ⟨hany, List.forall_mem_singleton.mpr hsetter⟩
  exact .node rfl trivial hsubs (by omega) (by omega) (by omega) (by omega)

theorem sound_positionalRule (hb : ∀ h : Handler, h.BuiltIn → ok h) (hr : r.Handlers ok)
    (dest : String) : (positionalRule base r dest).Sound ok base (base + 7) := by
  rw [positionalRule]
  have hflag : ∀ q ∈ [Rule.removePrefix (r.prefixChars.toList.map fun c => .ofList [c]) false],
      q.Sound ok base base := List.forall_mem_singleton.mpr (.leaf trivial rfl rfl)
  have hnot : (Rule.not (base + 1)
      (.removePrefix (r.prefixChars.toList.map fun c => .ofList [c]) false)).Sound ok base
      (base + 6) := .node rfl trivial hflag (by omega) (by omega) (by omega) (by omega)
  have hlimit : (Rule.limiter (base + 2) (positionalLimit r.append r.nargs)).Sound ok base
      (base + 6) := .leaf trivial rfl rfl
  have hsetter : (setter (base + 5) dest (if r.append then r.nargs else none) (valueFilter r)
      (r.append || r.nargs.isSome) r.handler).Sound ok base (base + 6) :=
    sound_setter hb hr.1 (by omega) ..
  have hsubs := List.forall_mem_cons.mpr
    ⟨hnot, List.forall_mem_cons.mpr ⟨hlimit, List.forall_mem_singleton.mpr hsetter⟩⟩
  exact .node rfl trivial hsubs (by omega) (by omega) (by omega) (by omega)

/-- The rule that is built for an argument, before its tokens are recorded. -/
def bareRule (base : Nat) (r : ResolvedArgument) : Rule :=
  match r.kind with
  | .optional flags prefixes =>
    optionalRule base r (r.dest.getD (anonymousDest base)) flags prefixes
  | .positional _ => positionalRule base r (r.dest.getD (anonymousDest base))

theorem rule_build (base : Nat) (r : ResolvedArgument) :
    (build base r).rule = withCapture (base + 7) r (bareRule base r) := rfl

/-- If the tokens of an argument are recorded, this is done by a capture around its rule. -/
theorem rule_build_cases (base : Nat) (r : ResolvedArgument) :
    (build base r).rule = bareRule base r ∨ ∃ handler, (build base r).rule =
      .capture (base + 7) r.rawDest (bareRule base r) r.rawFormat handler := by
  rw [rule_build, withCapture]
  split
  · exact .inl rfl
  · exact .inr ⟨_, rfl⟩

theorem sound_bareRule (hb : ∀ h : Handler, h.BuiltIn → ok h) (hr : r.Handlers ok) (base : Nat) :
    (bareRule base r).Sound ok base (base + 7) := by
  rw [bareRule]
  cases r.kind with
  | optional flags prefixes => exact sound_optionalRule hb hr _ flags prefixes
  | positional name => exact sound_positionalRule hb hr _

theorem ok_rawHandler (hb : ∀ h : Handler, h.BuiltIn → ok h) (hr : r.Handlers ok) :
    ok (r.rawHandler.getD .appendOrExtend) := by
  cases h : r.rawHandler with
  | none => exact hb _ trivial
  | some handler => exact hr.2 handler h

theorem sound_withCapture (hb : ∀ h : Handler, h.BuiltIn → ok h) (hr : r.Handlers ok) {rule : Rule}
    (h : rule.Sound ok base (base + 7)) :
    (withCapture (base + 7) r rule).Sound ok base (base + buildWidth) := by
  rw [withCapture]
  split
  · exact h.mono (Nat.le_refl base) (Nat.le_succ _)
  · exact .node rfl (ok_rawHandler hb hr) (List.forall_mem_singleton.mpr h) (by omega) (by omega)
      (Nat.le_succ _) (by simp [buildWidth])

theorem sound_build (hb : ∀ h : Handler, h.BuiltIn → ok h) (hr : r.Handlers ok) (base : Nat) :
    (build base r).rule.Sound ok base (base + buildWidth) := by
  rw [rule_build]
  exact sound_withCapture hb hr (sound_bareRule hb hr base)

theorem sound_flagPair (hb : ∀ h : Handler, h.BuiltIn → ok h) (hr : r.Handlers ok) (base : Nat)
    (trueSuffix falseSuffix : String) :
    (flagPair base r trueSuffix falseSuffix).rule.Sound ok base (base + width) := by
  have hon := (sound_build hb (r := flagVariant r true trueSuffix) hr base).mono
    (Nat.le_refl base) (Nat.le_add_right (base + buildWidth) buildWidth)
  have hoff := (sound_build hb (r := flagVariant r false falseSuffix) hr (base + buildWidth)).mono
    (Nat.le_add_right base buildWidth) (Nat.le_refl _)
  have hsubs := List.forall_mem_cons.mpr ⟨hon, List.forall_mem_singleton.mpr hoff⟩
  exact .node rfl trivial hsubs (by omega) (Nat.le_refl base) (by simp [width, buildWidth])
    (by simp [width, buildWidth])

/-- The parts of a resolved argument that depend on its kind. -/
def resolveKind (a : Argument) (prefixChars : String) : Except GrammarError Kinded :=
  if isOptional a prefixChars then resolveOptional a prefixChars else resolvePositional a

/-- The argument that these parts and the settings make. -/
def ofKinded (a : Argument) (settings : Settings) (regexp : Option Regex) (kinded : Kinded) :
    ResolvedArgument where
  kind := kinded.kind
  dest := kinded.dest
  nargs := a.nargs
  constant := a.constant
  default := kinded.default
  choices := a.choices
  valueType := a.valueType
  regexp
  required := kinded.required
  append := a.append
  ignoreCase := a.ignoreCase.getD settings.ignoreCase
  prefixChars := a.prefixChars.getD settings.prefixChars
  handler := a.handler
  rawDest := a.rawDest.getD []
  rawFormat := a.rawFormat
  rawHandler := a.rawHandler

theorem resolve_eq_ok {a : Argument} {settings : Settings} : resolve a settings = .ok r ↔
    ∃ regexp kinded, compilePattern a.regexp = .ok regexp ∧
      resolveKind a (a.prefixChars.getD settings.prefixChars) = .ok kinded ∧
        r = ofKinded a settings regexp kinded := by
  have hresolve : resolve a settings = compilePattern a.regexp >>= fun regexp =>
      resolveKind a (a.prefixChars.getD settings.prefixChars) >>= fun kinded =>
        .ok (ofKinded a settings regexp kinded) := by
    rw [resolve, resolveKind]
    split <;> rfl
  simp only [hresolve, bind_eq_ok, Except.ok.injEq]
  constructor
  · rintro ⟨regexp, hpattern, kinded, hkinded, rfl⟩
    exact ⟨regexp, kinded, hpattern, hkinded, rfl⟩
  · rintro ⟨regexp, kinded, hpattern, hkinded, rfl⟩
    exact ⟨regexp, hpattern, kinded, hkinded, rfl⟩

/-- Resolving an argument keeps its handlers and what it records. -/
theorem resolve_keeps {a : Argument} {settings : Settings} (h : resolve a settings = .ok r) :
    r.handler = a.handler ∧ r.rawDest = a.rawDest.getD [] ∧ r.rawFormat = a.rawFormat ∧
      r.rawHandler = a.rawHandler := by
  obtain ⟨regexp, kinded, -, -, rfl⟩ := resolve_eq_ok.mp h
  exact ⟨rfl, rfl, rfl, rfl⟩

theorem handlers_resolve {a : Argument} (ha : a.Handlers ok) {settings : Settings}
    (h : resolve a settings = .ok r) : r.Handlers ok := by
  obtain ⟨hhandler, -, -, hrawHandler⟩ := resolve_keeps h
  exact ⟨hhandler ▸ ha.1, hrawHandler ▸ ha.2⟩

section Action

variable {trueSuffix falseSuffix : String} {action : Action} {d : Declaration}

/-- Whatever its action, an argument is built as one rule, or as a flag and its opposite. -/
theorem applyAction_cases (h : applyAction base r trueSuffix falseSuffix action = .ok d) :
    (∃ s, r.Alike s ∧ d = build base s) ∨ d = flagPair base r trueSuffix falseSuffix := by
  have hbuild {s : ResolvedArgument} (hs : r.Alike s)
      (h : (.ok (build base s) : Except GrammarError Declaration) = .ok d) :
      (∃ s, r.Alike s ∧ d = build base s) ∨ d = flagPair base r trueSuffix falseSuffix :=
    .inl ⟨s, hs, (Except.ok.inj h).symm⟩
  have hconst {f : ResolvedArgument → ResolvedArgument} (hf : ∀ s, r.Alike s → r.Alike (f s))
      (h : (withConstant r).map (fun s => build base (f s)) = .ok d) :
      (∃ s, r.Alike s ∧ d = build base s) ∨ d = flagPair base r trueSuffix falseSuffix := by
    rw [withConstant] at h
    split at h
    · exact nomatch h
    · exact hbuild (hf { r with nargs := some (.exactly 0) } ⟨rfl, rfl, rfl, rfl, rfl⟩) h
  cases action with
  | store => exact hbuild ⟨rfl, rfl, rfl, rfl, rfl⟩ h
  | storeConst => exact hconst (f := id) (fun _ hs => hs) h
  | storeTrue => exact hbuild (s := withFlag r true) ⟨rfl, rfl, rfl, rfl, rfl⟩ h
  | storeFalse => exact hbuild (s := withFlag r false) ⟨rfl, rfl, rfl, rfl, rfl⟩ h
  | append => exact hbuild (s := { r with append := true }) ⟨rfl, rfl, rfl, rfl, rfl⟩ h
  | appendConst =>
    exact hconst (f := fun s => { s with append := true })
      (fun _ hs => ⟨hs.dest, hs.handler, hs.rawDest, hs.rawFormat, hs.rawHandler⟩) h
  | msvcFlag => exact .inr (Except.ok.inj h).symm
  | msvcFlagWithValue =>
    exact hbuild (s := { r with kind := colonKind r.kind }) ⟨rfl, rfl, rfl, rfl, rfl⟩ h

theorem alike_flagVariant (r : ResolvedArgument) (value : Bool) (suffix : String) :
    r.Alike (flagVariant r value suffix) := ⟨rfl, rfl, rfl, rfl, rfl⟩

/-- What holds of the rules that are built for an argument, and of a choice between two rules that
it holds of, holds of the rule of the argument. -/
theorem rule_induction {P : Rule → Prop}
    (h : applyAction base r trueSuffix falseSuffix action = .ok d)
    (hbuild : ∀ base s, r.Alike s → P (build base s).rule)
    (hany : ∀ id on off, P on → P off → P (.any id [on, off])) : P d.rule := by
  obtain ⟨s, hs, rfl⟩ | rfl := applyAction_cases h
  · exact hbuild base s hs
  · exact hany _ _ _ (hbuild _ _ (alike_flagVariant r true trueSuffix))
      (hbuild _ _ (alike_flagVariant r false falseSuffix))

/-- The rule of an argument, whatever its action. -/
theorem sound_applyAction (hb : ∀ h : Handler, h.BuiltIn → ok h) (hr : r.Handlers ok)
    (h : applyAction base r trueSuffix falseSuffix action = .ok d) :
    d.rule.Sound ok base (base + width) := by
  obtain ⟨s, hs, rfl⟩ | rfl := applyAction_cases h
  · exact (sound_build hb (hs.handlers hr) base).mono (Nat.le_refl base)
      (by simp [width, buildWidth])
  · exact sound_flagPair hb hr base trueSuffix falseSuffix

end Action

/-- The rule of an argument that is accepted. -/
theorem sound_ofArgument (hb : ∀ h : Handler, h.BuiltIn → ok h) {a : Argument}
    (ha : a.Handlers ok) {settings : Settings} {defaults : ArgumentDefaults} {d : Declaration}
    (h : ofArgument base a settings defaults = .ok d) : d.rule.Sound ok base (base + width) := by
  simp only [ofArgument, bind_eq_ok] at h
  obtain ⟨-, -, resolved, hres, h⟩ := h
  have hinherit : (a.inherit defaults).Handlers ok := ha
  exact sound_applyAction hb (handlers_resolve hinherit hres) h

end Declaration

/-! ## Calls of the facade -/

namespace ArgumentParser

/-- The argument parsers that calls of the facade lead to. A call that is refused changes
nothing. -/
inductive Built (ok : Handler → Prop) : ArgumentParser → Prop where
  | new : Built ok {}
  | setPrefixChars {p : ArgumentParser} (prefixChars : String) (h : Built ok p) :
      Built ok (p.setPrefixChars prefixChars)
  | setIgnoreCase {p : ArgumentParser} (ignoreCase : Bool) (h : Built ok p) :
      Built ok (p.setIgnoreCase ignoreCase)
  | setDefaults {p : ArgumentParser} (defaults : ArgumentDefaults) (h : Built ok p) :
      Built ok (p.setDefaults defaults)
  | setDest {p : ArgumentParser} (dest : Dest) (h : Built ok p) : Built ok (p.setDest dest)
  | setAction {p : ArgumentParser} (action : Action) (h : Built ok p) :
      Built ok (p.setAction action)
  | setRawDest {p : ArgumentParser} (rawDest : List String) (h : Built ok p) :
      Built ok (p.setRawDest rawDest)
  | setRawFormat {p : ArgumentParser} (format : RawFormat) (h : Built ok p) :
      Built ok (p.setRawFormat format)
  | addArgument {p q : ArgumentParser} {a : Argument} {rule : Rule} (ha : a.Handlers ok)
      (h : Built ok p) (hadd : p.addArgument a = .ok (rule, q)) : Built ok q
  | setDefault {p : ArgumentParser} (dest : String) (value : Value) (h : Built ok p) :
      Built ok (p.setDefault dest value)
  | parse {p : ArgumentParser} (h : Built ok p) : Built ok p.keepCompiled

namespace Built

variable {ok : Handler → Prop} {p : ArgumentParser}

/-- A token parser that is kept has the rules that are declared. -/
theorem rules_compile (h : p.Built ok) : p.compile.rules = p.rules := by
  induction h with
  | new => rfl
  | addArgument _ _ hadd =>
    obtain ⟨d, -, hq⟩ := Declaration.bind_eq_ok.mp hadd
    obtain ⟨-, rfl⟩ := Prod.mk.inj (Except.ok.inj hq)
    rfl
  | setDefault => rfl
  | parse _ ih => exact ih
  | _ => assumption

/-- Every declared rule is one that its argument was compiled to. -/
theorem sound (hb : ∀ h : Handler, h.BuiltIn → ok h) (h : p.Built ok) :
    ∀ r ∈ p.rules, r.Library ok ∧ r.Apart := by
  induction h with
  | new => exact fun r hr => nomatch hr
  | addArgument ha _ hadd ih =>
    obtain ⟨d, hd, hq⟩ := Declaration.bind_eq_ok.mp hadd
    obtain ⟨-, rfl⟩ := Prod.mk.inj (Except.ok.inj hq)
    intro r hr
    rcases List.mem_append.mp hr with hr | hr
    · exact ih r hr
    · obtain rfl := List.mem_singleton.mp hr
      have hsound := Declaration.sound_ofArgument hb ha hd
      exact ⟨hsound.library, hsound.apart⟩
  | _ => assumption

end Built

end ArgumentParser

end TokenGrammar
