import TokenGrammar.Proofs.Destinations
import TokenGrammar.Proofs.Occurrences

/-!
# Values fused with their flags

A value may stand behind its flag as a token of its own, or in one token with a prefix that the
argument has for the flag. The two spellings come to the same: where the flag is consumed the value
is next, and where the prefix is stripped what is left of the token is the value. From there on the
same rule takes the values, and it sees no difference.

* `Rule.firstPrefix?`: the prefix that is stripped. `Rule.stripFirst?_append` for what is left;
* `ResolvedArgument.Fuses`: a flag, and a prefix with a value behind it;
* `Declaration.firstMatch_flag`, `Declaration.firstMatch_fused`: the two spellings are recognised
  with the value next;
* `Rule.view_alone_collect`: what a collector does depends on the view only;
* `Declaration.run_build_fused`, `Declaration.run_ofArgument_fused`: the two spellings come to the
  same.
-/

namespace TokenGrammar

/-! ## Stripping a prefix -/

namespace Rule

/-- Two characters are alike, by the way in which prefixes are compared. -/
def alike (fold : Bool) : Char → Char → Bool := if fold then eqIgnoringCase else (· == ·)

/-- The first of the prefixes that the token has. -/
def firstPrefix? (prefixes : List String) (fold : Bool) (token : String) : Option String :=
  prefixes.find? fun p => (stripPrefix? (alike fold) p.toList token.toList).isSome

theorem stripPrefix?_append (fold : Bool) (front text : List Char) :
    stripPrefix? (alike fold) front (front ++ text) = some text := by
  induction front with
  | nil => rfl
  | cons c front ih =>
    have hc : alike fold c c = true := by cases fold <;> simp [alike, eqIgnoringCase]
    rw [List.cons_append, stripPrefix?, if_pos hc, ih]

/-- What is stripped is the first prefix that the token has. -/
theorem stripFirst?_of_firstPrefix? {prefixes : List String} {fold : Bool} {front token : String}
    (h : firstPrefix? prefixes fold token = some front) :
    stripFirst? prefixes fold token =
      (stripPrefix? (alike fold) front.toList token.toList).map .ofList := by
  show prefixes.findSome?
    (fun p => (stripPrefix? (alike fold) p.toList token.toList).map String.ofList) = _
  induction prefixes with
  | nil => cases h
  | cons p prefixes ih =>
    rw [firstPrefix?, List.find?_cons] at h
    rw [List.findSome?_cons]
    cases hp : stripPrefix? (alike fold) p.toList token.toList with
    | none =>
      rw [hp] at h
      exact ih h
    | some text =>
      rw [hp] at h
      obtain rfl := Option.some.inj h
      rw [hp]
      rfl

/-- Behind the prefix of a token that is made of it and a value stands the value. -/
theorem stripFirst?_append {prefixes : List String} {fold : Bool} {front value : String}
    (h : firstPrefix? prefixes fold (front ++ value) = some front) :
    stripFirst? prefixes fold (front ++ value) = some value := by
  rw [stripFirst?_of_firstPrefix? h, String.toList_append, stripPrefix?_append, Option.map_some,
    String.ofList_toList]

end Rule

namespace ResolvedArgument

/-- The first prefix of an optional argument that the token has. -/
def firstPrefix? (r : ResolvedArgument) (token : String) : Option String :=
  match r.kind with
  | .optional _ prefixes => Rule.firstPrefix? prefixes r.ignoreCase token
  | .positional _ => none

/-- A flag of an argument with values, and a prefix that a value may follow: the token made of the
prefix and the value is no flag itself, and no earlier prefix takes a part of it. -/
structure Fuses (r : ResolvedArgument) (flag front value : String) : Prop where
  values : r.nargs ≠ some (.exactly 0)
  flag : r.HasFlag flag
  some_value : value ≠ ""
  no_flag : ¬ r.HasFlag (front ++ value)
  first : r.firstPrefix? (front ++ value) = some front

end ResolvedArgument

/-! ## Recognising the argument -/

namespace Declaration

variable {base : Nat} {r : ResolvedArgument} {flags prefixes : List String}
  {flag front token value : String} {rest : List String} {attributes : Option Namespace} {id : Nat}

theorem alone_removePrefix_start {fold : Bool}
    (hstrip : Rule.stripFirst? prefixes fold token = some value) :
    (Rule.removePrefix prefixes fold).alone (.start (token :: rest) attributes) =
      some (.start (value :: rest) attributes) := by
  have hacts : (Rule.removePrefix prefixes fold).run.Acts (fun _ => True)
      (State.start (token :: rest) attributes).content true
      (State.start (value :: rest) attributes).content := by
    rw [Rule.run]
    exact Rule.acts_replaceNext_some hstrip
  exact Rule.alone_of_acts hacts

theorem alone_not_isEmpty_start (hvalue : value ≠ "") :
    (Rule.not id .isEmpty).alone (.start (value :: rest) attributes) =
      some (.start (value :: rest) attributes) := by
  have hacts : (Rule.not id .isEmpty).run.Acts (· ≠ .rule id)
      (State.start (value :: rest) attributes).content (!decide (value = ""))
      (State.start (value :: rest) attributes).content := by
    have hempty : (Rule.onNext (· = "")).Acts (fun _ => True)
        (State.start (value :: rest) attributes).content (decide (value = ""))
        (State.start (value :: rest) attributes).content := Rule.acts_onNext _
    rw [Rule.run, Rule.run]
    exact hempty.notStep trivial fun o ho => ⟨trivial, ho⟩
  rw [decide_eq_false hvalue] at hacts
  exact Rule.alone_of_acts hacts

/-- A sequence among the recognisers does what its rules do alone. -/
theorem alone_recogniser {rules : List Rule} {st : State} (hst : st.savepoints = [])
    (h : Rule.all id rules ∈ recognisers base r flags prefixes) :
    (Rule.all id rules).alone st = Rule.aloneAll rules st :=
  have hsound : (Rule.all id rules).Sound Handler.Local base (base + 4) :=
    sound_recognisers flags prefixes _ h
  hsound.library.alone_all hsound.apart hst

/-- A flag is consumed, and nothing else is. -/
theorem alone_flag_start (hkind : r.kind = .optional flags prefixes)
    (hmem : Rule.all id [.oneOf flags r.ignoreCase, .skip 1] ∈ recognisers base r flags prefixes)
    (token : String) (rest : List String) (attributes : Option Namespace) :
    (r.HasFlag token → ∃ mid,
      (Rule.all id [.oneOf flags r.ignoreCase, .skip 1]).alone
        (.start (token :: rest) attributes) = some mid ∧
      mid.savepoints = [] ∧ mid.view = (State.start rest attributes).view) ∧
    (¬ r.HasFlag token → (Rule.all id [.oneOf flags r.ignoreCase, .skip 1]).alone
        (.start (token :: rest) attributes) = none) := by
  have hnext : (State.start (token :: rest) attributes).tokens.head? = some token := rfl
  rw [ResolvedArgument.HasFlag, hkind, alone_recogniser rfl hmem, Rule.aloneAll_cons, alone_oneOf,
    hnext, Option.any_some]
  refine ⟨fun hword => ?_, fun hword => ?_⟩
  · rw [if_pos hword]
    exact ⟨_, rfl, rfl, rfl⟩
  · rw [if_neg hword]
    rfl

/-- Where a value may be fused there are two ways to recognise the argument. -/
theorem recognisers_eq (hfuses : r.Fuses flag front value)
    (hkind : r.kind = .optional flags prefixes) (base : Nat) :
    recognisers base r flags prefixes =
      [.all (base + 1) [.oneOf flags r.ignoreCase, .skip 1],
        .all (base + 2) [.removePrefix prefixes r.ignoreCase, .not (base + 3) .isEmpty]] := by
  have hflags : flags ≠ [] := by
    rintro rfl
    simpa [ResolvedArgument.HasFlag, hkind, Rule.isWord] using hfuses.flag
  have hprefixes : prefixes ≠ [] := by
    rintro rfl
    simpa [ResolvedArgument.firstPrefix?, hkind, Rule.firstPrefix?] using hfuses.first
  simp [recognisers, hflags, hprefixes, hfuses.values]

/-- Behind a flag the value is next. -/
theorem firstMatch_flag (hfuses : r.Fuses flag front value)
    (hkind : r.kind = .optional flags prefixes) (base : Nat) (rest : List String)
    (attributes : Option Namespace) :
    ∃ mid, Rule.firstMatch (recognisers base r flags prefixes)
        (.start (flag :: rest) attributes) = some mid ∧
      mid.savepoints = [] ∧ mid.view = (State.start rest attributes).view := by
  have heq := recognisers_eq hfuses hkind base
  have hmem : Rule.all (base + 1) [.oneOf flags r.ignoreCase, .skip 1] ∈
      recognisers base r flags prefixes := by simp [heq]
  obtain ⟨mid, halone, hmid⟩ := (alone_flag_start hkind hmem flag rest attributes).1 hfuses.flag
  refine ⟨mid, ?_, hmid⟩
  rw [heq, Rule.firstMatch, List.findSome?_cons, halone]

/-- Where the prefix is stripped the value is next. -/
theorem firstMatch_fused (hfuses : r.Fuses flag front value)
    (hkind : r.kind = .optional flags prefixes) (base : Nat) (rest : List String)
    (attributes : Option Namespace) :
    Rule.firstMatch (recognisers base r flags prefixes)
      (.start ((front ++ value) :: rest) attributes) =
        some (.start (value :: rest) attributes) := by
  have heq := recognisers_eq hfuses hkind base
  have hmem : Rule.all (base + 1) [.oneOf flags r.ignoreCase, .skip 1] ∈
      recognisers base r flags prefixes := by simp [heq]
  have hmem' : Rule.all (base + 2) [.removePrefix prefixes r.ignoreCase, .not (base + 3) .isEmpty] ∈
      recognisers base r flags prefixes := by simp [heq]
  have hfirst : Rule.firstPrefix? prefixes r.ignoreCase (front ++ value) = some front := by
    simpa [ResolvedArgument.firstPrefix?, hkind] using hfuses.first
  have hnone := (alone_flag_start hkind hmem (front ++ value) rest attributes).2 hfuses.no_flag
  have hstrip : (Rule.all (base + 2) [.removePrefix prefixes r.ignoreCase,
      .not (base + 3) .isEmpty]).alone (.start ((front ++ value) :: rest) attributes) =
        some (.start (value :: rest) attributes) := by
    rw [alone_recogniser rfl hmem', Rule.aloneAll_cons,
      alone_removePrefix_start (Rule.stripFirst?_append hfirst), Option.bind_some,
      Rule.aloneAll_cons, alone_not_isEmpty_start hfuses.some_value]
    rfl
  rw [heq, Rule.firstMatch, List.findSome?_cons, hnone, List.findSome?_cons, hstrip]

end Declaration

/-! ## Taking the values -/

/-- What a collector leaves depends on what is in view. -/
theorem Rule.view_alone_collect {collector : Collector} {handler : Handler}
    (hb : handler.BuiltIn) {st : State} (hst : st.savepoints = []) :
    ((Rule.collect collector handler).alone st).map State.view =
      st.view.collect collector handler := by
  obtain ⟨c, rfl⟩ := State.exists_eq_under hst
  rw [State.view, Content.content_under, collect_view]
  cases he : collector.enough c.tokens.remaining with
  | false =>
    have hacts : (Rule.collect collector handler).run.Acts (· ≠ .rule collector.id) c false c := by
      rw [run]
      exact acts_collectStep_false (fun _ => id) he
    rw [alone_of_acts_false hacts]
    rfl
  | true =>
    have hacts : (collectStep collector handler).Acts (· ≠ .rule collector.id) c true _ :=
      acts_collectStep (fun _ => id) he (.apply hb _ _ _)
    rw [alone, run, hacts.run_alone]
    rfl

/-- A tree that is run alone in two states gives the same verdict and leaves the same view, if what
is left in view where it matches is the same. -/
theorem Rule.Library.run_alike {rule : Rule} (h : rule.Library Handler.Local)
    (hapart : rule.Apart) {st st' : State} (hst : st.savepoints = []) (hst' : st'.savepoints = [])
    (hview : (rule.alone st).map State.view = (rule.alone st').map State.view) :
    ∃ matched mid mid', rule.run st = .ok matched mid ∧ rule.run st' = .ok matched mid' ∧
      (matched = true → mid.view = mid'.view) := by
  obtain ⟨c, rfl⟩ := State.exists_eq_under hst
  obtain ⟨c', rfl⟩ := State.exists_eq_under hst'
  obtain ⟨a, d, hacts⟩ := h.acts hapart c
  obtain ⟨a', d', hacts'⟩ := h.acts hapart c'
  rw [alone, alone, hacts.run_alone, hacts'.run_alone] at hview
  refine ⟨a, d.under [], d'.under [], hacts.run_alone, ?_, ?_⟩
  · rw [hacts'.run_alone]
    cases a <;> cases a' <;> simp at hview ⊢
  · rintro rfl
    cases a' with
    | true => exact Option.some.inj hview
    | false => cases hview

namespace Declaration

variable {base : Nat} {r : ResolvedArgument} {flags prefixes : List String}
  {flag front value : String}

/-- An optional argument takes its values from what is in view behind its flag. -/
theorem view_alone_optionalRule (hr : r.Handlers Handler.BuiltIn) (base : Nat) (dest : String)
    (flags prefixes : List String) {st : State} (hst : st.savepoints = []) :
    ((optionalRule base r dest flags prefixes).alone st).map State.view =
      (Rule.firstMatch (recognisers base r flags prefixes) st).bind fun mid =>
        mid.view.collect ⟨base + 5, dest, Nargs.boundsOf r.nargs, valueFilter r⟩
          (setterHandler r.nargs r.append r.handler) := by
  have hlocal : r.Handlers Handler.Local := hr.mono fun _ => Handler.local_of_builtIn
  have hsound : (optionalRule base r dest flags prefixes).Sound Handler.Local base (base + 7) :=
    sound_optionalRule (fun _ => Handler.local_of_builtIn) hlocal dest flags prefixes
  have hwriter : (setterHandler r.nargs r.append r.handler).BuiltIn :=
    ok_setterHandler (fun _ hb => hb) hr.1 r.nargs r.append
  rw [optionalRule, setter_eq_collect] at hsound ⊢
  have hany := hsound.library.subs (.any (base + 4) (recognisers base r flags prefixes))
    List.mem_cons_self
  have hapart := hsound.apart.subs (.any (base + 4) (recognisers base r flags prefixes))
    List.mem_cons_self
  rw [hsound.library.alone_all hsound.apart hst, Rule.aloneAll_cons]
  cases hmatch : (Rule.any (base + 4) (recognisers base r flags prefixes)).alone st with
  | none =>
    rw [← hany.alone_any hapart hst, hmatch]
    rfl
  | some mid =>
    have hmid : mid.savepoints = [] := hany.savepoints_of_alone hapart hst hmatch
    rw [← hany.alone_any hapart hst, hmatch, Option.bind_some, Option.bind_some,
      ← Rule.view_alone_collect hwriter hmid, Rule.aloneAll_cons]
    cases (Rule.collect _ _).alone mid <;> rfl

/-- The two spellings of a flag and its value come to the same. -/
theorem view_alone_build_fused (hr : r.Handlers Handler.BuiltIn) (hraw : r.rawDest = [])
    (hfuses : r.Fuses flag front value) (base : Nat) (rest : List String)
    (attributes : Option Namespace) :
    ((build base r).rule.alone (.start (flag :: value :: rest) attributes)).map State.view =
      ((build base r).rule.alone (.start ((front ++ value) :: rest) attributes)).map
        State.view := by
  obtain ⟨flags, prefixes, hkind⟩ : ∃ flags prefixes, r.kind = .optional flags prefixes := by
    cases hkind : r.kind with
    | optional flags prefixes => exact ⟨flags, prefixes, rfl⟩
    | positional name => simpa [ResolvedArgument.HasFlag, hkind] using hfuses.flag
  obtain ⟨mid, hflag, -, hview⟩ := firstMatch_flag hfuses hkind base (value :: rest) attributes
  have hfused := firstMatch_fused hfuses hkind base rest attributes
  rw [rule_build_of_rawDest hraw, bareRule, hkind]
  simp only
  rw [view_alone_optionalRule hr _ _ _ _ rfl, view_alone_optionalRule hr _ _ _ _ rfl, hflag, hfused,
    Option.bind_some, Option.bind_some, hview]

/-- The rule of an argument gives the same verdict for a flag with a value behind it and for the two
in one token. Where it matches, it leaves the same attributes and the same tokens. -/
theorem run_build_fused (hr : r.Handlers Handler.BuiltIn) (hraw : r.rawDest = [])
    (hfuses : r.Fuses flag front value) (base : Nat) (rest : List String)
    (attributes : Option Namespace) :
    ∃ matched st st',
      (build base r).rule.run (.start (flag :: value :: rest) attributes) = .ok matched st ∧
      (build base r).rule.run (.start ((front ++ value) :: rest) attributes) = .ok matched st' ∧
      (matched = true →
        st.attributes = st'.attributes ∧ st.tokens.remaining = st'.tokens.remaining) := by
  have hlocal : r.Handlers Handler.Local := hr.mono fun _ => Handler.local_of_builtIn
  have hsound := sound_build (fun _ => Handler.local_of_builtIn) hlocal base
  obtain ⟨matched, st, st', hrun, hrun', hview⟩ := hsound.library.run_alike hsound.apart rfl rfl
    (view_alone_build_fused hr hraw hfuses base rest attributes)
  refine ⟨matched, st, st', hrun, hrun', fun hmatched => ?_⟩
  exact ⟨congrArg View.attributes (hview hmatched), congrArg View.tokens (hview hmatched)⟩

/-- The same of an argument as it is declared, in terms of the argument as it is resolved. -/
theorem run_ofArgument_fused {a : Argument} {settings : Settings} {defaults : ArgumentDefaults}
    {d : Declaration} (h : ofArgument base a settings defaults = .ok d)
    (hresolve : resolve (a.inherit defaults) settings = .ok r)
    (haction : (a.inherit defaults).action.getD .store = .store ∨
      (a.inherit defaults).action.getD .store = .append)
    (hr : r.Handlers Handler.BuiltIn) (hraw : r.rawDest = [])
    (hfuses : r.Fuses flag front value) (rest : List String) (attributes : Option Namespace) :
    ∃ matched st st',
      d.rule.run (.start (flag :: value :: rest) attributes) = .ok matched st ∧
      d.rule.run (.start ((front ++ value) :: rest) attributes) = .ok matched st' ∧
      (matched = true →
        st.attributes = st'.attributes ∧ st.tokens.remaining = st'.tokens.remaining) := by
  rw [← ArgumentParser.ofArgument_inherit] at h
  obtain ⟨-, s, hs, happly⟩ := ofArgument_eq_ok.mp h
  obtain rfl := Except.ok.inj (hs.symm.trans hresolve)
  obtain hstore | happend := haction
  · rw [hstore] at happly
    obtain rfl := Except.ok.inj happly
    exact run_build_fused hr hraw hfuses base rest attributes
  · rw [happend] at happly
    obtain rfl := Except.ok.inj happly
    have hfuses' : ({ s with append := true } : ResolvedArgument).Fuses flag front value :=
      ⟨hfuses.values, hfuses.flag, hfuses.some_value, hfuses.no_flag, hfuses.first⟩
    have hr' : ({ s with append := true } : ResolvedArgument).Handlers Handler.BuiltIn := hr
    exact run_build_fused hr' hraw hfuses' base rest attributes

/-- An option that adds pairs of values. -/
def pairedOutput : Argument :=
  { names := ["-o", "--out"], nargs := some (.exactly 2), action := some .append }

theorem run_ofArgument_fused_pairedOutput :
    ∃ d, ofArgument 0 pairedOutput {} {} = .ok d ∧ ∃ matched st st',
      d.rule.run (.start ["--out", "-x", "y"] none) = .ok matched st ∧
      d.rule.run (.start ["--out=-x", "y"] none) = .ok matched st' ∧
      (matched = true →
        st.attributes = st'.attributes ∧ st.tokens.remaining = st'.tokens.remaining) := by
  obtain ⟨d, hd⟩ : ∃ d, ofArgument 0 pairedOutput {} {} = .ok d := ⟨_, rfl⟩
  obtain ⟨r, hresolve, hkind, hnargs, hfold, hr, hraw⟩ :
      ∃ r, resolve (pairedOutput.inherit {}) {} = .ok r ∧
        r.kind = .optional ["--out", "-o"] ["--out=", "-o"] ∧ r.nargs = some (.exactly 2) ∧
        r.ignoreCase = false ∧ r.Handlers Handler.BuiltIn ∧ r.rawDest = [] :=
    ⟨_, rfl, rfl, rfl, rfl, ⟨nofun, nofun⟩, rfl⟩
  have hfuses : r.Fuses "--out" "--out=" "-x" := by
    constructor
    · rw [hnargs]
      decide
    · exact ResolvedArgument.hasFlag_of_mem hkind (by decide)
    · decide
    · rw [ResolvedArgument.HasFlag, hkind, hfold]
      decide
    · rw [ResolvedArgument.firstPrefix?, hkind, hfold]
      decide
  exact ⟨d, hd, run_ofArgument_fused hd hresolve (.inr rfl) hr hraw hfuses ["y"] none⟩

end Declaration

end TokenGrammar
