import TokenGrammar.Proofs.Removal

/-!
# Destinations without a name

An argument whose destination has no name is matched and checked as with a name, and its values are
not part of the result. A parse with the name and one without it are held side by side: what the one
writes to the named attribute, the other writes to an attribute that is made up.

* `Namespace.Anonymised`: the attributes of two such parses;
* `Declaration.Counterparts`: the two declarations of an argument.
  `Declaration.exists_counterparts`: there are two for each argument, whatever its action. A flag
  and its opposite that are required are left out where the parse is strict: an attribute is made up
  for each of the two spellings, and both are required;
* `ArgumentParser.Declares.parse_anonymous`: the results of all parses.
-/

namespace TokenGrammar

/-! ## Attributes of two parses -/

namespace Namespace

/-- The attributes with a named destination, and those where names are made up for it. They are the
same but for that; what stands in the made up attributes has to do with what stands in the named
one. -/
structure Anonymised (d : String) (made : List String)
    (own : Option Value → List (Option Value) → Prop) (ns ns' : Namespace) : Prop where
  same : ∀ name, name ∉ d :: made → ns'.get? name = ns.get? name
  unmade : ∀ name ∈ made, ns.get? name = none
  unnamed : ns'.get? d = none
  own : own (ns.get? d) (made.map ns'.get?)

variable {d e : String} {made : List String} {own : Option Value → List (Option Value) → Prop}
  {ns ns' ms ms' : Namespace}

/-- Other attributes may change, as long as they stay the same in both. -/
theorem Anonymised.of_eq (h : Anonymised d made own ns ns')
    (hns : ∀ name ∈ d :: made, ms.get? name = ns.get? name)
    (hns' : ∀ name ∈ d :: made, ms'.get? name = ns'.get? name)
    (hsame : ∀ name, name ∉ d :: made → ms'.get? name = ms.get? name) :
    Anonymised d made own ms ms' where
  same := hsame
  unmade := fun name hname =>
    (hns name (List.mem_cons_of_mem d hname)).trans (h.unmade name hname)
  unnamed := (hns' d List.mem_cons_self).trans h.unnamed
  own := by
    have hmade : made.map ms'.get? = made.map ns'.get? :=
      List.map_congr_left fun name hname => hns' name (List.mem_cons_of_mem d hname)
    rw [hns d List.mem_cons_self, hmade]
    exact h.own

/-- An attribute that is neither the named one nor made up is the same in both. -/
theorem Anonymised.stable {name : String} (hname : name ∉ d :: made) :
    Stable (Anonymised d made own) name where
  same := fun _ _ h => h.same name hname
  set := fun ns ns' value h => by
    have hother {other : String} (hmem : other ∈ d :: made) : other ≠ name :=
      fun heq => hname (heq ▸ hmem)
    refine h.of_eq (fun other hmem => ns.get?_set_of_ne value (hother hmem))
      (fun other hmem => ns'.get?_set_of_ne value (hother hmem)) fun other hother => ?_
    rw [get?_set, get?_set, h.same other hother]
  remove := fun ns ns' h => by
    have hother {other : String} (hmem : other ∈ d :: made) : other ≠ name :=
      fun heq => hname (heq ▸ hmem)
    refine h.of_eq (fun other hmem => ns.get?_remove_of_ne (hother hmem))
      (fun other hmem => ns'.get?_remove_of_ne (hother hmem)) fun other hother => ?_
    rw [get?_remove, get?_remove, h.same other hother]

/-- The named attribute may be written in the one, and a made up one in the other. -/
theorem Anonymised.put (h : Anonymised d made own ns ns') (hd : d ∉ made) (he : e ∈ made)
    {value? value'? : Option Value}
    (hown : own ((ns.put d value?).get? d) (made.map (ns'.put e value'?).get?)) :
    Anonymised d made own (ns.put d value?) (ns'.put e value'?) where
  same := fun name hname => by
    have hne : name ≠ d := List.ne_of_not_mem_cons hname
    have hne' : name ≠ e := fun heq => hname (List.mem_cons_of_mem d (heq ▸ he))
    rw [get?_put_of_ne _ _ hne, get?_put_of_ne _ _ hne', h.same name hname]
  unmade := fun name hname => by
    have hne : name ≠ d := fun heq => hd (heq ▸ hname)
    rw [get?_put_of_ne _ _ hne, h.unmade name hname]
  unnamed := by
    have hne : d ≠ e := fun heq => hd (heq ▸ he)
    rw [get?_put_of_ne _ _ hne, h.unnamed]
  own := hown

/-- What is in a made up attribute is what is in the named one. -/
def Copied (value? : Option Value) (copies : List (Option Value)) : Prop := copies = [value?]

theorem Anonymised.twins_copied {handler : Handler} (h : handler.Confined) (hne : d ≠ e) :
    handler.Twins (Anonymised d [e] Copied) d handler e := by
  have hcopy (ns ns' : Namespace) (hns : Anonymised d [e] Copied ns ns') :
      ns'.get? e = ns.get? d := (List.cons.inj hns.own).1
  refine h.twins hcopy fun ns ns' value hns => ?_
  have hcopied :
      Copied ((ns.put d (some value)).get? d) ([e].map (ns'.put e (some value)).get?) := by
    simp [Namespace.put, Copied]
  exact hns.put (by simpa using hne) (List.mem_singleton_self e) hcopied

/-- It does not matter what is in the made up attributes. -/
def Free (_ : Option Value) (_ : List (Option Value)) : Prop := True

theorem Anonymised.twins_free {handler : Handler} (h : handler.Confined) (hd : d ∉ made)
    (he : e ∈ made) : handler.Twins (Anonymised d made Free) d handler e :=
  h.twins_of_put fun _ _ _ _ hns => hns.put hd he trivial

/-- The named attribute is missing, and so are the made up ones. -/
def Unwritten (value? : Option Value) (made : List (Option Value)) : Prop :=
  value? = none ∧ ∀ other ∈ made, other = none

end Namespace

/-! ## Two declarations of an argument -/

namespace Declaration

open TokenParser (Drops validate)

variable {base : Nat} {r : ResolvedArgument} {d : String}

/-- Two declarations of an argument, where the one names its destination and the other makes names
up for it. -/
structure Counterparts (mode : Mode) (d : String) (made : List String)
    (own : Option Value → List (Option Value) → Prop) (x y : Declaration) : Prop where
  rule : Rule.Twin (Namespace.Anonymised d made own) x.rule y.rule
  start : own none (made.map fun _ => none)
  named : ∀ v ∈ x.validators, v.dest = d
  anonymous : ∀ v ∈ y.validators, v.dest ∈ made
  drops : ∀ e ∈ made, Drops y.validators e
  verdicts : ∀ ns ns', Namespace.Anonymised d made own ns ns' →
    Verdicts (validate mode x.validators ns) (validate mode y.validators ns')

theorem counterparts_build (hr : r.Handlers Handler.Confined) (hdest : r.dest = some d)
    (hne : d ≠ anonymousDest base) (hraw : ∀ name ∈ r.rawDest, name ∉ [d, anonymousDest base])
    (mode : Mode) :
    Counterparts mode d [anonymousDest base] Namespace.Copied (build base r)
      (build base { r with dest := none }) where
  rule := by
    refine twin_build hr base none (.inr fun handler hh => ?_) fun handler hh dest hmem =>
      hh.twins_of_stable (Namespace.Anonymised.stable (hraw dest hmem))
    rw [hdest]
    exact Namespace.Anonymised.twins_copied hh hne
  start := rfl
  named := fun v hv => by rw [dest_of_mem_build hv, hdest, Option.getD_some]
  anonymous := fun v hv => List.mem_singleton.mpr (dest_of_mem_build hv)
  drops := List.forall_mem_singleton.mpr (drops_build rfl)
  verdicts := fun ns ns' hns => by
    have hcopy : ns'.get? (anonymousDest base) = ns.get? d := (List.cons.inj hns.own).1
    rw [validators_build, validators_build, hdest]
    simp only [Option.isNone_some, Bool.false_eq_true, if_false, List.append_nil,
      Option.isNone_none, if_true, TokenParser.validate_append]
    exact (TokenParser.verdicts_of_renamed (renamed_checks r d _) hcopy).bind fun ms => ⟨_, rfl⟩

theorem counterparts_flagPair (hdest : r.dest = some d) {trueSuffix falseSuffix : String}
    {mode : Mode} {own : Option Value → List (Option Value) → Prop}
    (start : own none [none, none])
    (rule : Rule.Twin
      (Namespace.Anonymised d [anonymousDest base, anonymousDest (base + buildWidth)] own)
      (flagPair base r trueSuffix falseSuffix).rule
      (flagPair base { r with dest := none } trueSuffix falseSuffix).rule)
    (verdicts : ∀ ns ns', Namespace.Anonymised d
        [anonymousDest base, anonymousDest (base + buildWidth)] own ns ns' →
      Verdicts (validate mode (flagPair base r trueSuffix falseSuffix).validators ns)
        (validate mode (flagPair base { r with dest := none } trueSuffix falseSuffix).validators
          ns')) :
    Counterparts mode d [anonymousDest base, anonymousDest (base + buildWidth)] own
      (flagPair base r trueSuffix falseSuffix)
      (flagPair base { r with dest := none } trueSuffix falseSuffix) where
  rule := rule
  start := start
  named := by
    have hbuild (base : Nat) (value : Bool) (suffix : String) :
        ∀ v ∈ (build base (flagVariant r value suffix)).validators, v.dest = d := fun v hv => by
      rw [dest_of_mem_build hv, flagVariant, hdest, Option.getD_some]
    exact List.forall_mem_append.mpr ⟨hbuild _ _ _, hbuild _ _ _⟩
  anonymous := by
    refine List.forall_mem_append.mpr ⟨fun v hv => ?_, fun v hv => ?_⟩
    · rw [dest_of_mem_build hv]
      exact List.mem_cons_self
    · rw [dest_of_mem_build hv]
      exact List.mem_cons_of_mem _ List.mem_cons_self
  drops := by
    obtain ⟨hon, hoff⟩ :=
      drops_flagPair base (r := { r with dest := none }) rfl trueSuffix falseSuffix
    exact List.forall_mem_cons.mpr ⟨hon, List.forall_mem_singleton.mpr hoff⟩
  verdicts := verdicts

/-- The declarations of a flag and its opposite, unless a strict parse asks for both of them. -/
theorem counterparts_flagPair_optional (hr : r.Handlers Handler.Confined) (hdest : r.dest = some d)
    {made : List String} (hmade : made = [anonymousDest base, anonymousDest (base + buildWidth)])
    (hd : d ∉ made) (hraw : ∀ name ∈ r.rawDest, name ∉ d :: made) (trueSuffix falseSuffix : String)
    {mode : Mode} (hpass : mode = .strict → r.required = true → r.default ≠ none) :
    Counterparts mode d made Namespace.Free (flagPair base r trueSuffix falseSuffix)
      (flagPair base { r with dest := none } trueSuffix falseSuffix) := by
  subst hmade
  refine counterparts_flagPair hdest trivial ?_ fun ns ns' _ => ?_
  · refine twin_flagPair hr base none trueSuffix falseSuffix (.inr fun handler hh => ?_)
      fun handler hh dest hmem => hh.twins_of_stable (Namespace.Anonymised.stable (hraw dest hmem))
    rw [hdest]
    exact ⟨Namespace.Anonymised.twins_free hh hd List.mem_cons_self,
      Namespace.Anonymised.twins_free hh hd (List.mem_cons_of_mem _ List.mem_cons_self)⟩
  · obtain ⟨ms, hms⟩ := exists_validate_flagPair (r := r) base trueSuffix falseSuffix hpass ns
    obtain ⟨ms', hms'⟩ := exists_validate_flagPair (r := { r with dest := none }) base trueSuffix
      falseSuffix hpass ns'
    rw [hms, hms']
    exact .pass ms ms'

/-- A positional argument as a flag and its opposite is never matched, whatever its destination. -/
theorem counterparts_flagPair_positional (hr : r.Handlers Handler.Confined)
    (hdest : r.dest = some d) {name : String} (hkind : r.kind = .positional name)
    {made : List String} (hmade : made = [anonymousDest base, anonymousDest (base + buildWidth)])
    (hraw : ∀ name ∈ r.rawDest, name ∉ d :: made) (trueSuffix falseSuffix : String) (mode : Mode) :
    Counterparts mode d made Namespace.Unwritten (flagPair base r trueSuffix falseSuffix)
      (flagPair base { r with dest := none } trueSuffix falseSuffix) := by
  subst hmade
  refine counterparts_flagPair hdest ⟨rfl, by simp⟩ ?_ fun ns ns' hns => ?_
  · exact twin_flagPair hr base none trueSuffix falseSuffix (.inl ⟨name, hkind⟩)
      fun handler hh dest hmem => hh.twins_of_stable (Namespace.Anonymised.stable (hraw dest hmem))
  · by_cases hpass : mode = .strict → r.required = true → r.default ≠ none
    · obtain ⟨ms, hms⟩ := exists_validate_flagPair (r := r) base trueSuffix falseSuffix hpass ns
      obtain ⟨ms', hms'⟩ := exists_validate_flagPair (r := { r with dest := none }) base trueSuffix
        falseSuffix hpass ns'
      rw [hms, hms']
      exact .pass ms ms'
    · obtain ⟨rfl, hrequired, hdefault⟩ :
          mode = .strict ∧ r.required = true ∧ r.default = none := by
        simpa using hpass
      have hmissing : ns.get? ((flagVariant r true trueSuffix).dest.getD (anonymousDest base)) =
          none := by
        rw [flagVariant, hdest]
        exact hns.own.1
      have hmissing' : ns'.get? ((flagVariant { r with dest := none } true trueSuffix).dest.getD
          (anonymousDest base)) = none := hns.own.2 _ List.mem_cons_self
      obtain ⟨dest, context, herror⟩ := validate_build_of_missing
        (r := flagVariant r true trueSuffix) ⟨_, _, rfl⟩ hrequired hdefault hmissing
      obtain ⟨dest', context', herror'⟩ := validate_build_of_missing
        (r := flagVariant { r with dest := none } true trueSuffix) ⟨_, _, rfl⟩ hrequired hdefault
        hmissing'
      rw [flagPair, flagPair, TokenParser.validate_append, TokenParser.validate_append, herror,
        herror']
      exact .fail trivial

end Declaration

/-- A flag and its opposite that are required, and have no default. -/
structure Argument.AsksForBoth (settings : Settings) (a : Argument) : Prop where
  action : a.action = some .msvcFlag
  optional : Declaration.isOptional a (a.prefixChars.getD settings.prefixChars) = true
  required : a.required = some true
  default : a.default = none

namespace Declaration

variable {base : Nat} {r : ResolvedArgument} {a : Argument} {settings : Settings} {d : String}
  {x : Declaration}

/-- No name that an argument may have as its destination is made up. -/
theorem ne_anonymousDest (h : checkDest (.named d) = .ok ()) (id : Nat) : d ≠ anonymousDest id := by
  rintro rfl
  have hat : ¬ ('@' = '_' ∨ Text.isAlphanumeric '@' = true) := by simp [Text.isAlphanumeric]
  have hlist : (anonymousDest id).toList = "@anonymous_".toList ++ Decimal.digitChars id :=
    String.toList_ofList
  have hmem : '@' ∈ (anonymousDest id).toList := hlist ▸ List.mem_append_left _ (by simp)
  have hname : isDestName (anonymousDest id) = false :=
    List.all_eq_false.mpr ⟨'@', hmem, by simpa using hat⟩
  rw [checkDest, hname] at h
  exact nomatch h

/-- An argument does not name what is made up. -/
theorem not_mentions_anonymousDest {d : String}
    (h : ofArgument base { a with dest := .named d } settings {} = .ok x) {id : Nat}
    (hraw : anonymousDest id ∉ a.rawDest.getD []) :
    ¬ (Call.argument settings { a with dest := .named d }).Mentions (anonymousDest id) := by
  obtain ⟨hcheck, -⟩ := ofArgument_eq_ok.mp h
  rintro ⟨r, hr, hdest | hmem⟩
  · rw [(resolve_anonymous hr).1] at hdest
    exact ne_anonymousDest hcheck id (Option.some.inj hdest)
  · rw [(resolve_keeps hr).2.1] at hmem
    exact hraw hmem

/-- Whatever its action, an argument whose destination has no name is compiled to a counterpart of
the argument with the name. -/
theorem exists_counterparts_applyAction (hr : r.Handlers Handler.Confined) (hdest : r.dest = some d)
    (hne : ∀ id, d ≠ anonymousDest id)
    (hraw : ∀ name ∈ r.rawDest, name ≠ d ∧ ∀ id, name ≠ anonymousDest id)
    {trueSuffix falseSuffix : String} {action : Action}
    (hx : applyAction base r trueSuffix falseSuffix action = .ok x) :
    ∃ y, applyAction base { r with dest := none } trueSuffix falseSuffix action = .ok y ∧
      ∀ mode, (mode = .strict → action = .msvcFlag → (∀ name, r.kind ≠ .positional name) →
          r.required = true → r.default ≠ none) → ∃ made own,
        made ⊆ [anonymousDest base, anonymousDest (base + buildWidth)] ∧
          Counterparts mode d made own x y := by
  have hrawOther {made : List String}
      (hmade : made ⊆ [anonymousDest base, anonymousDest (base + buildWidth)]) :
      ∀ name ∈ r.rawDest, name ∉ d :: made := by
    intro name hname hmem
    obtain ⟨hd, hother⟩ := hraw name hname
    obtain heq | hmem := List.mem_cons.mp hmem
    · exact hd heq
    · have hid := hmade hmem
      simp only [List.mem_cons, List.not_mem_nil, or_false] at hid
      exact hid.elim (hother _) (hother _)
  obtain ⟨hflag, s, hs, rfl⟩ | ⟨rfl, rfl⟩ := applyAction_eq_ok.mp hx
  · have hkeeps := adjust_alike hs
    have hadjust : adjust { r with dest := none } action = .ok { s with dest := none } := by
      rw [adjust_dest, hs]
      rfl
    have hmade : [anonymousDest base] ⊆ [anonymousDest base, anonymousDest (base + buildWidth)] :=
      List.cons_subset_cons _ (List.nil_subset _)
    refine ⟨_, applyAction_eq_ok.mpr (.inl ⟨hflag, _, hadjust, rfl⟩),
      fun mode _ => ⟨_, Namespace.Copied, hmade, ?_⟩⟩
    exact counterparts_build (hkeeps.handlers hr) (hkeeps.dest.trans hdest) (hne base)
      (hkeeps.rawDest ▸ hrawOther hmade) mode
  · refine ⟨flagPair base { r with dest := none } trueSuffix falseSuffix, rfl,
      fun mode hpass => ⟨[anonymousDest base, anonymousDest (base + buildWidth)], ?_⟩⟩
    have hd : d ∉ [anonymousDest base, anonymousDest (base + buildWidth)] := by
      simp [hne]
    by_cases hkind : ∃ name, r.kind = .positional name
    · obtain ⟨name, hkind⟩ := hkind
      exact ⟨_, List.Subset.refl _, counterparts_flagPair_positional hr hdest hkind rfl
        (hrawOther (List.Subset.refl _)) trueSuffix falseSuffix mode⟩
    · exact ⟨_, List.Subset.refl _, counterparts_flagPair_optional hr hdest rfl hd
        (hrawOther (List.Subset.refl _)) trueSuffix falseSuffix fun hmode =>
          hpass hmode rfl (not_exists.mp hkind)⟩

/-- An argument that is accepted with its destination named is accepted without, and is compiled to
a counterpart. -/
theorem exists_counterparts (h : ofArgument base { a with dest := .named d } settings {} = .ok x)
    (ha : a.Handlers Handler.Confined)
    (hraw : ∀ name ∈ a.rawDest.getD [], name ≠ d ∧ ∀ id, name ≠ anonymousDest id) :
    (∀ id, d ≠ anonymousDest id) ∧
    ∃ y, ofArgument base { a with dest := .anonymous } settings {} = .ok y ∧
      ∀ mode, (mode = .strict → ¬ a.AsksForBoth settings) → ∃ made own,
        made ⊆ [anonymousDest base, anonymousDest (base + buildWidth)] ∧
          Counterparts mode d made own x y := by
  obtain ⟨hcheck, r, hr, hx⟩ := ofArgument_eq_ok.mp h
  obtain ⟨hdest, hanonymous⟩ := resolve_anonymous hr
  have hne := ne_anonymousDest hcheck
  have hhandlers : r.Handlers Handler.Confined :=
    handlers_resolve (a := { a with dest := .named d }) ha hr
  have hrawDest : r.rawDest = a.rawDest.getD [] := (resolve_keeps hr).2.1
  obtain ⟨y, hy, hcounterparts⟩ :=
    exists_counterparts_applyAction hhandlers hdest hne (hrawDest ▸ hraw) hx
  refine ⟨hne, y, ofArgument_eq_ok.mpr ⟨rfl, _, hanonymous, hy⟩, fun mode hmode =>
    hcounterparts mode fun hstrict haction hkind hrequired hdefault => hmode hstrict ?_⟩
  have hoptional : isOptional a (a.prefixChars.getD settings.prefixChars) = true := by
    by_contra hpositional
    obtain ⟨name, hname⟩ := resolve_positional hr hpositional
    exact hkind name hname
  obtain ⟨-, hreq, hdef⟩ := resolve_optional hr hoptional
  refine ⟨?_, hoptional, ?_, hdef ▸ hdefault⟩
  · cases hact : a.action with
    | none => simp [hact] at haction
    | some action => simpa [hact] using haction
  · cases hrequire : a.required with
    | none => simp [hreq, hrequire] at hrequired
    | some required => simpa [hreq, hrequire] using hrequired

end Declaration

/-! ## Parses without an attribute -/

/-- An attribute other than the one that is missing in the second namespace. -/
theorem Namespace.stable_remove {d name : String} (hne : name ≠ d) :
    Stable (fun ns ns' => ns' = ns.remove d) name where
  same := by
    rintro ns _ rfl
    exact ns.get?_remove_of_ne hne
  set := by
    rintro ns _ value rfl
    refine ext_get? fun other => ?_
    simp only [get?_set, get?_remove]
    split
    · rename_i heq
      rw [if_neg fun hd => hne (heq.symm.trans hd)]
    · rfl
  remove := by
    rintro ns _ rfl
    refine ext_get? fun other => ?_
    simp only [get?_remove]
    split <;> simp

/-- The outcomes of two parses, of which the second one does without an attribute. -/
inductive Without (d : String) : Except Error (Namespace × List String) →
    Except Error (Namespace × List String) → Prop where
  | ok (ns : Namespace) (unparsed : List String) :
      Without d (.ok (ns, unparsed)) (.ok (ns.remove d, unparsed))
  | error {e e' : Error} (h : e.SameKind e') : Without d (.error e) (.error e')

namespace TokenParser

variable {mode : Mode} {d : String} {made : List String}
  {own : Option Value → List (Option Value) → Prop} {x y : Declaration} {ns ns' ms ms' : Namespace}

/-- What an argument leaves behind with its destination named and without differs by the destination
only. -/
theorem eq_remove_of_counterparts (hxy : Declaration.Counterparts mode d made own x y)
    (hd : d ∉ made) (h : Namespace.Anonymised d made own ns ns')
    (hx : validate mode x.validators ns = .ok ms) (hy : validate mode y.validators ns' = .ok ms') :
    ms' = ms.remove d := by
  have hother (name : String) (hname : name ≠ d) : ms.get? name = ns.get? name := by
    refine get?_validate (fun v hv => Validator.writes?_ne ?_) hx
    rw [hxy.named v hv]
    exact hname.symm
  have hother' (name : String) (hname : name ∉ made) : ms'.get? name = ns'.get? name := by
    refine get?_validate (fun v hv => Validator.writes?_ne ?_) hy
    rintro rfl
    exact hname (hxy.anonymous v hv)
  refine Namespace.ext_get? fun name => ?_
  rw [Namespace.get?_remove]
  split
  · rename_i heq
    rw [heq, hother' d hd, h.unnamed]
  · rename_i hne
    rw [hother name hne]
    by_cases hmem : name ∈ made
    · rw [(hxy.drops name hmem).get?_eq_none hy, h.unmade name hmem]
    · have hnot : name ∉ d :: made := List.not_mem_cons_of_ne_of_not_mem hne hmem
      rw [hother' name hmem, h.same name hnot]

/-- The validators of two grammars that differ in such an argument. -/
theorem validate_without (hxy : Declaration.Counterparts mode d made own x y) (hd : d ∉ made)
    {front back : List Validator} (hfront : ∀ v ∈ front, v.dest ∉ d :: made)
    (hback : ∀ v ∈ back, v.dest ≠ d) (h : Namespace.Anonymised d made own ns ns')
    (unparsed : List String) :
    Without d ((validate mode (front ++ (x.validators ++ back)) ns).map (·, unparsed))
      ((validate mode (front ++ (y.validators ++ back)) ns').map (·, unparsed)) := by
  rw [validate_append, validate_append]
  obtain ⟨e, he, he'⟩ | ⟨ms, ms', hms, hms', hrel⟩ := validate_of_stable
    (fun v hv => Namespace.Anonymised.stable (hfront v hv)) h
  · rw [he, he']
    exact .error (.refl e)
  · rw [hms, hms']
    show Without d ((validate mode (x.validators ++ back) ms).map _)
      ((validate mode (y.validators ++ back) ms').map _)
    rw [validate_append, validate_append]
    have hverdicts := hxy.verdicts ms ms' hrel
    generalize hx : validate mode x.validators ms = outcome at hverdicts
    generalize hy : validate mode y.validators ms' = outcome' at hverdicts
    cases hverdicts with
    | fail hkind => exact .error hkind
    | pass ks ks' =>
      obtain rfl := eq_remove_of_counterparts hxy hd hrel hx hy
      show Without d ((validate mode back ks).map _) ((validate mode back (ks.remove d)).map _)
      obtain ⟨e, he, he'⟩ | ⟨ls, _, hls, hls', rfl⟩ := validate_of_stable
        (fun v hv => Namespace.stable_remove (hback v hv)) (rfl : ks.remove d = ks.remove d)
      · rw [he, he']
        exact .error (.refl e)
      · rw [hls, hls']
        exact .ok ls unparsed

/-- The grammar of an argument between others. -/
def between (front : TokenParser) (x : Declaration) (back : TokenParser) : TokenParser where
  rules := front.rules ++ x.rule :: back.rules
  validators := front.validators ++ (x.validators ++ back.validators)

/-- Two grammars that differ in such an argument. -/
theorem parse_without (hxy : Declaration.Counterparts mode d made own x y) (hd : d ∉ made)
    {front back : TokenParser} (hfront : ∀ name ∈ d :: made, front.Ignores name)
    (hback : ∀ name ∈ d :: made, back.Ignores name)
    (hlibrary : ∀ r ∈ front.rules ++ back.rules, r.Library Handler.Confined)
    (hunknown : ∀ dest ∈ mode.unknownDest, dest ∉ d :: made) {seed : Option Namespace}
    (hseed : ∀ name ∈ d :: made, (seed.getD .empty).get? name = none) (tokens : List String) :
    Without d ((front.between x back).parse mode tokens seed)
      ((front.between y back).parse mode tokens seed) := by
  have htwin {rules : List Rule} (hrules : ∀ r ∈ rules, r.Library Handler.Confined)
      (hspares : ∀ name ∈ d :: made, ∀ r ∈ rules, r.Spares name) :
      List.Forall₂ (Rule.Twin (Namespace.Anonymised d made own)) rules rules := by
    refine List.forall₂_same.mpr fun r hr => (hrules r hr).twin ?_
    have heach : r.Each fun q => ∀ name : {name // name ∈ d :: made}, name.1 ∉ q.dests :=
      (hrules r hr).forall_intro fun name => hspares name.1 name.2 r hr
    refine heach.mono fun q hq dest hdest => Namespace.Anonymised.stable fun hmem => ?_
    exact hq ⟨dest, hmem⟩ hdest
  obtain ⟨hfrontLibrary, hbackLibrary⟩ := List.forall_mem_append.mp hlibrary
  have hrules : List.Forall₂ (Rule.Twin (Namespace.Anonymised d made own))
      (front.between x back).rules (front.between y back).rules :=
    List.rel_append (htwin hfrontLibrary fun name hname => (hfront name hname).1)
      (.cons hxy.rule (htwin hbackLibrary fun name hname => (hback name hname).1))
  have hstart : Namespace.Anonymised d made own (seed.getD .empty) (seed.getD .empty) := by
    refine ⟨fun _ _ => rfl, fun name hname => hseed name (List.mem_cons_of_mem d hname),
      hseed d List.mem_cons_self, ?_⟩
    have hmade : made.map (seed.getD .empty).get? = made.map fun _ => none :=
      List.map_congr_left fun name hname => hseed name (List.mem_cons_of_mem d hname)
    rw [hseed d List.mem_cons_self, hmade]
    exact hxy.start
  have hextend : Handler.extend.Confined := Handler.confined_of_builtIn trivial
  have hunknownTwins : ∀ dest ∈ mode.unknownDest,
      Handler.extend.Twins (Namespace.Anonymised d made own) dest .extend dest := fun dest hdest =>
    hextend.twins_of_stable (Namespace.Anonymised.stable (hunknown dest hdest))
  obtain ⟨e, hp, hq⟩ | ⟨unparsed, ns, ns', hns, hp, hq⟩ :=
    twin_parse hrules hunknownTwins hstart tokens
  · rw [hp, hq]
    exact .error (.refl e)
  · rw [hp, hq]
    refine validate_without hxy hd (fun v hv hmem => ?_) (fun v hv => ?_) hns unparsed
    · exact (hfront _ hmem).2 v hv rfl
    · exact (hback d List.mem_cons_self).2 v hv

/-- A lenient parse does not fail. -/
theorem Sound.exists_parse_lenient {p : TokenParser} (h : p.Sound) (dests tokens : List String)
    (seed : Option Namespace) : ∃ outcome, p.parse (.lenient dests) tokens seed = .ok outcome := by
  obtain ⟨unparsed, st, -, hparse⟩ := h.parse_eq (.lenient dests) tokens seed
  obtain ⟨ns, hns⟩ := validate_lenient dests p.validators st.attributes
  refine ⟨(ns, unparsed), ?_⟩
  rw [hparse, hns]
  rfl

end TokenParser

/-! ## Grammars -/

/-- The destination that an argument names, and all names that are made up for arguments without. -/
def Declaration.Reserved (d name : String) : Prop := name = d ∨ ∃ id, name = anonymousDest id

open Declaration (Reserved anonymousDest)

section Grammar

variable {before after : List Call} {settings : Settings} {a : Argument} {d : String}

/-- Where the destination of an argument is used nowhere else, a grammar that does not name it
parses alike, but for the destination. -/
theorem Call.exists_parse_without {p : TokenParser}
    (h : compile 0 (before ++ .argument settings { a with dest := .named d } :: after) = .ok p)
    (ha : a.Handlers Handler.Confined) (hlibrary : ∀ r ∈ p.rules, r.Library Handler.Confined)
    (hraw : ∀ name, Reserved d name → name ∉ a.rawDest.getD [])
    (hothers : ∀ call ∈ before ++ after, ∀ name, Reserved d name → ¬ call.Mentions name) :
    ∃ q, compile 0 (before ++ .argument settings { a with dest := .anonymous } :: after) = .ok q ∧
      ∀ mode, (mode = .strict → ¬ a.AsksForBoth settings) →
        (∀ name, Reserved d name → name ∉ mode.unknownDest) → ∀ seed : Option Namespace,
          (∀ name, Reserved d name → (seed.getD .empty).get? name = none) → ∀ tokens,
            Without d (p.parse mode tokens seed) (q.parse mode tokens seed) := by
  obtain ⟨hbefore, hafter⟩ := List.forall_mem_append.mp hothers
  obtain ⟨front, _, hfront, hrest, rfl⟩ := compile_append.mp h
  obtain ⟨x, back, hx, hback, rfl⟩ := compile_argument.mp hrest
  have hrawNe : ∀ name ∈ a.rawDest.getD [], name ≠ d ∧ ∀ id, name ≠ anonymousDest id :=
    fun name hname => ⟨fun heq => hraw name (.inl heq) hname,
      fun id heq => hraw name (.inr ⟨id, heq⟩) hname⟩
  obtain ⟨hne, y, hy, hcounterparts⟩ := Declaration.exists_counterparts hx ha hrawNe
  refine ⟨_, compile_append.mpr ⟨front, _, hfront,
    compile_argument.mpr ⟨y, back, hy, hback, rfl⟩, rfl⟩, ?_⟩
  intro mode hmode hunknown seed hseed tokens
  obtain ⟨made, own, hmade, hxy⟩ := hcounterparts mode hmode
  have hid {e : String} (he : e ∈ made) : ∃ id, e = anonymousDest id ∧
      front.rules.length * Declaration.width ≤ id ∧
      id < (front.rules.length + 1) * Declaration.width := by
    have hmem := hmade he
    simp only [Nat.zero_add, List.mem_cons, List.not_mem_nil, or_false] at hmem
    simp only [Declaration.width, Declaration.buildWidth] at hmem ⊢
    obtain rfl | rfl := hmem
    · exact ⟨_, rfl, by omega, by omega⟩
    · exact ⟨_, rfl, by omega, by omega⟩
  have hreserved {name : String} (hname : name ∈ d :: made) : Reserved d name :=
    (List.mem_cons.mp hname).imp_right fun he => (hid he).imp fun _ h => h.1
  have hrange {name : String} (hname : name ∈ d :: made) (id : Nat)
      (heq : name = anonymousDest id) : front.rules.length * Declaration.width ≤ id ∧
        id < (front.rules.length + 1) * Declaration.width := by
    obtain rfl | he := List.mem_cons.mp hname
    · exact absurd heq (hne id)
    · obtain ⟨id', heq', hrange⟩ := hid he
      obtain rfl := Declaration.anonymousDest_inj (heq'.symm.trans heq)
      exact hrange
  obtain ⟨hfrontLibrary, hbackLibrary⟩ := List.forall_mem_append.mp hlibrary
  refine TokenParser.parse_without hxy (fun he => ?_) (fun name hname => ?_) (fun name hname => ?_)
    (List.forall_mem_append.mpr ⟨hfrontLibrary, (List.forall_mem_cons.mp hbackLibrary).2⟩)
    (fun dest hdest hmem => hunknown dest (hreserved hmem) hdest)
    (fun name hname => hseed name (hreserved hname)) tokens
  · obtain ⟨id, heq, -⟩ := hid he
    exact hne id heq
  · refine ignores_compile hfront (fun call hcall => hbefore call hcall name (hreserved hname)) ?_
    intro id heq
    have := hrange hname id heq
    simp only [Declaration.width, Declaration.buildWidth] at this ⊢
    omega
  · refine ignores_compile hback (fun call hcall => hafter call hcall name (hreserved hname)) ?_
    intro id heq
    have := hrange hname id heq
    simp only [Declaration.width, Declaration.buildWidth] at this ⊢
    omega

/-- An argument whose destination has no name is matched and checked as with a name that is used
nowhere else, and its values are not part of the result. Only where it is a flag and its opposite
that are required, this does not hold of strict parses: they ask for both if there is no name. -/
theorem ArgumentParser.Declares.parse_anonymous {p : ArgumentParser}
    (h : p.Declares (before ++ .argument settings { a with dest := .named d } :: after))
    (ha : a.Handlers Handler.Confined)
    (hhandlers : ∀ call ∈ before ++ after, call.Handlers Handler.Confined)
    (hraw : ∀ name, Reserved d name → name ∉ a.rawDest.getD [])
    (hothers : ∀ call ∈ before ++ after, ∀ name, Reserved d name → ¬ call.Mentions name)
    {seed : Option Namespace}
    (hseed : ∀ name, Reserved d name → (seed.getD .empty).get? name = none) :
    (∃ q : ArgumentParser,
      q.Declares (before ++ .argument settings { a with dest := .anonymous } :: after)) ∧
    ∀ q : ArgumentParser,
      q.Declares (before ++ .argument settings { a with dest := .anonymous } :: after) →
      ∀ tokens : List String,
      (∀ unknownDest : List String, (∀ name, Reserved d name → name ∉ unknownDest) →
        ∃ ns unparsed, (p.parseKnown tokens seed unknownDest).1 = .ok (ns, unparsed) ∧
          (q.parseKnown tokens seed unknownDest).1 = .ok (ns.remove d, unparsed) ∧
          ∀ id, ns.get? (anonymousDest id) = none) ∧
      (¬ a.AsksForBoth settings →
        (∃ ns, (p.parse tokens seed).1 = .ok ns ∧ (q.parse tokens seed).1 = .ok (ns.remove d) ∧
          ∀ id, ns.get? (anonymousDest id) = none) ∨
        ∃ e e', (p.parse tokens seed).1 = .error e ∧ (q.parse tokens seed).1 = .error e' ∧
          e.SameKind e') := by
  have hcalls {P : Call → Prop} (hargument : P (.argument settings { a with dest := .named d }))
      (hcalls : ∀ call ∈ before ++ after, P call) :
      ∀ call ∈ before ++ .argument settings { a with dest := .named d } :: after, P call := by
    obtain ⟨hbefore, hafter⟩ := List.forall_mem_append.mp hcalls
    exact List.forall_mem_append.mpr ⟨hbefore, List.forall_mem_cons.mpr ⟨hargument, hafter⟩⟩
  have hbuilt := (h.built (hcalls ha hhandlers)).sound fun _ => Handler.confined_of_builtIn
  have hlibrary : ∀ r ∈ p.rules, r.Library Handler.Confined := fun r hr => (hbuilt r hr).1
  have hsound : TokenParser.Sound ⟨p.rules, p.validators⟩ := fun r hr =>
    ⟨(hlibrary r hr).of_handlers fun _ => Handler.Confined.local, (hbuilt r hr).2⟩
  obtain ⟨compiled, hcompiled, hwithout⟩ :=
    Call.exists_parse_without h.compile_calls ha hlibrary hraw hothers
  have hownMade : ∀ id, ¬ (Call.argument settings { a with dest := .named d }).Mentions
      (anonymousDest id) := by
    obtain ⟨_, _, -, hrest, -⟩ := Call.compile_append.mp h.compile_calls
    obtain ⟨x, _, hx, -⟩ := Call.compile_argument.mp hrest
    exact fun id => Declaration.not_mentions_anonymousDest hx (hraw _ (.inr ⟨id, rfl⟩))
  -- what is made up is not left behind
  have hmade {mode : Mode} {tokens unparsed : List String} {ns : Namespace}
      (hunknown : ∀ name, Reserved d name → name ∉ mode.unknownDest)
      (hparse : TokenParser.parse ⟨p.rules, p.validators⟩ mode tokens seed = .ok (ns, unparsed))
      (id : Nat) : ns.get? (anonymousDest id) = none := by
    have hreserved : Reserved d (anonymousDest id) := .inr ⟨id, rfl⟩
    exact TokenParser.get?_parse_eq_none (Call.ignores_or_drops h.compile_calls
      (hcalls (hownMade id) fun call hcall => hothers call hcall _ hreserved)) hlibrary
      (hunknown _ hreserved) (hseed _ hreserved) hparse
  refine ⟨Call.exists_declares hcompiled, fun q hq tokens => ?_⟩
  have hqc : q.compile = compiled :=
    hq.compile_eq.trans (Except.ok.inj (hq.compile_calls.symm.trans hcompiled))
  refine ⟨fun unknownDest hunknown => ?_, fun hboth => ?_⟩
  · obtain ⟨outcome, houtcome⟩ := hsound.exists_parse_lenient unknownDest tokens seed
    have hboth := hwithout (.lenient unknownDest) nofun hunknown seed hseed tokens
    rw [ArgumentParser.parseKnown, ArgumentParser.parseKnown, h.compile_eq, hqc,
      TokenParser.parseLenient, TokenParser.parseLenient, houtcome]
    rw [houtcome] at hboth
    generalize hparse : compiled.parse (.lenient unknownDest) tokens seed = outcome' at hboth
    cases hboth with
    | ok ns unparsed =>
      have hnone : ∀ name, Reserved d name → name ∉ (Mode.lenient unknownDest).unknownDest :=
        hunknown
      exact ⟨ns, unparsed, rfl, rfl, hmade hnone houtcome⟩
  · have hnone : ∀ name, Reserved d name → name ∉ Mode.strict.unknownDest :=
      fun _ _ => List.not_mem_nil
    have hboth := hwithout .strict (fun _ => hboth) hnone seed hseed tokens
    rw [ArgumentParser.parse, ArgumentParser.parse, h.compile_eq, hqc, TokenParser.parseStrict,
      TokenParser.parseStrict]
    generalize hparse : TokenParser.parse ⟨p.rules, p.validators⟩ .strict tokens seed = outcome
      at hboth
    generalize compiled.parse .strict tokens seed = outcome' at hboth
    cases hboth with
    | ok ns unparsed => exact .inl ⟨ns, rfl, rfl, hmade hnone hparse⟩
    | error hkind => exact .inr ⟨_, _, rfl, rfl, hkind⟩

end Grammar

namespace ArgumentParser

/-- An option with one value, which must be there. -/
def output : Argument := { names := ["-o"], nargs := some (.exactly 1), required := some true }

/-- The flag, the option with its destination named, and a default. -/
def outputs : Except GrammarError ArgumentParser := do
  let (_, p) ← ({} : ArgumentParser).addArgument small
  let (_, q) ← p.addArgument { output with dest := .named "file" }
  return q.setDefault "mode" (.str "fast")

/-- The value of the option is not part of the result if its destination has no name. Still there
must be one. -/
theorem Declares.parse_anonymous_outputs :
    ∃ p, outputs = .ok p ∧ ∃ q : ArgumentParser,
      q.Declares [.argument {} small, .argument {} { output with dest := .anonymous },
        .default "mode" (.str "fast")] ∧
      (p.parse ["-o", "a"] none).1 = .ok (.ofList
        [("Os", .bool false), ("file", .list [.str "a"]), ("mode", .str "fast")]) ∧
      (q.parse ["-o", "a"] none).1 = .ok (.ofList [("Os", .bool false), ("mode", .str "fast")]) ∧
      (q.parseKnown ["-o"] none ["rest"]).1 = .ok (.ofList
        [("Os", .bool false), ("mode", .str "fast"), ("rest", .list [.str "-o"])], ["-o"]) ∧
      ∃ dest context, (q.parse [] none).1 = .error (.requiredAttributeMissing dest context) := by
  have heval : outputs.toOption.map (fun p =>
      ((p.parse ["-o", "a"] none).1, (p.parseKnown ["-o"] none ["rest"]).1, (p.parse [] none).1)) =
      some (.ok (.ofList [("Os", .bool false), ("file", .list [.str "a"]), ("mode", .str "fast")]),
        .ok (.ofList [("Os", .bool false), ("mode", .str "fast"), ("rest", .list [.str "-o"])],
          ["-o"]),
        .error (.requiredAttributeMissing "file" (some "-o"))) := by
    decide +kernel
  have hresolve : (Declaration.resolve small {}).map (fun r => (r.dest, r.rawDest)) =
      .ok (some "Os", []) := by
    decide +kernel
  cases houtputs : outputs with
  | error e => exact nomatch (congrArg Except.toOption houtputs ▸ heval)
  | ok p =>
    rw [houtputs] at heval
    obtain ⟨hstrict, heval⟩ := Prod.mk.inj (Option.some.inj heval)
    obtain ⟨hlenient, hmissing⟩ := Prod.mk.inj heval
    obtain ⟨⟨_, p₁⟩, hsmall, h⟩ := Declaration.bind_eq_ok.mp houtputs
    obtain ⟨⟨_, p₂⟩, hoption, h⟩ := Declaration.bind_eq_ok.mp h
    obtain rfl := Except.ok.inj h
    have hdeclares := ((Declares.new.addArgument hsmall).addArgument hoption).setDefault "mode"
      (.str "fast")
    obtain ⟨d, -, -, rfl⟩ := addArgument_eq_ok.mp hsmall
    have hcalls : (p₂.setDefault "mode" (.str "fast")).Declares
        ([.argument {} small] ++ .argument {} { output with dest := .named "file" } ::
          [.default "mode" (.str "fast")]) := hdeclares
    have hnone : output.Handlers Handler.Confined :=
      ⟨fun _ h => (nomatch h), fun _ h => (nomatch h)⟩
    have hnames : ∀ name, Reserved "file" name → name ∉ ["Os", "mode", "rest"] := by
      rintro name (rfl | ⟨id, rfl⟩)
      · decide
      · have hmade : ∀ name ∈ ["Os", "mode", "rest"], name ≠ anonymousDest id := fun name hname =>
          Declaration.ne_anonymousDest
            ((by decide +kernel : ∀ name ∈ ["Os", "mode", "rest"],
              Declaration.checkDest (.named name) = .ok ()) name hname) id
        exact fun hmem => hmade _ hmem rfl
    have hmentions : ∀ call ∈ [Call.argument {} small] ++ [.default "mode" (.str "fast")],
        ∀ name, Reserved "file" name → ¬ call.Mentions name := by
      refine List.forall_mem_cons.mpr ⟨?_, List.forall_mem_singleton.mpr ?_⟩
      · rintro name hname ⟨r, hr, hdest⟩
        rw [hr] at hresolve
        obtain ⟨hOs, hraw⟩ := Prod.mk.inj (Except.ok.inj hresolve)
        rw [hOs, hraw] at hdest
        obtain hdest | hdest := hdest
        · exact hnames name hname (by simp [← Option.some.inj hdest])
        · exact nomatch hdest
      · rintro name hname rfl
        exact hnames "mode" hname (by simp)
    have hseed : ∀ name, Reserved "file" name →
        ((none : Option Namespace).getD .empty).get? name = none := fun _ _ => rfl
    obtain ⟨⟨q, hq⟩, hparse⟩ := Declares.parse_anonymous hcalls hnone
      (List.forall_mem_cons.mpr ⟨hnone, List.forall_mem_singleton.mpr trivial⟩)
      (fun _ _ => List.not_mem_nil) hmentions hseed
    have hflag : ¬ output.AsksForBoth {} := fun h => nomatch h.action
    refine ⟨_, rfl, q, hq, hstrict, ?_, ?_, ?_⟩
    · obtain ⟨ns, hp, hq, -⟩ | ⟨e, -, hp, -⟩ := (hparse q hq ["-o", "a"]).2 hflag
      · obtain rfl := Except.ok.inj (hstrict.symm.trans hp)
        exact hq.trans (congrArg Except.ok (by decide +kernel))
      · exact nomatch hstrict.symm.trans hp
    · obtain ⟨ns, unparsed, hp, hq, -⟩ := (hparse q hq ["-o"]).1 ["rest"] fun name hname hmem =>
        hnames name hname (List.mem_cons_of_mem _ (List.mem_cons_of_mem _ hmem))
      obtain ⟨rfl, rfl⟩ := Prod.mk.inj (Except.ok.inj (hlenient.symm.trans hp))
      exact hq.trans (congrArg Except.ok (by decide +kernel))
    · obtain ⟨ns, hp, -⟩ | ⟨e, e', hp, hq, hkind⟩ := (hparse q hq []).2 hflag
      · exact nomatch hmissing.symm.trans hp
      · obtain rfl := Except.error.inj (hmissing.symm.trans hp)
        cases e' with
        | requiredAttributeMissing dest context => exact ⟨dest, context, hq⟩
        | _ => exact nomatch hkind

/-- A flag and its opposite, one of which must be there. -/
def typeInfo : Argument := { names := ["-GR"], action := some .msvcFlag, required := some true }

/-- Two attributes are made up for a flag and its opposite, and each of them is required: where the
one spelling is there, the other one is missing. So strict parses are not alike there. -/
theorem not_forall_parse_anonymous :
    ¬ ∀ (p q : ArgumentParser) (settings : Settings) (a : Argument) (d : String),
      p.Declares [.argument settings { a with dest := .named d }] →
      q.Declares [.argument settings { a with dest := .anonymous }] →
      a.Handlers Handler.Confined → a.rawDest = none → ∀ tokens ns,
        (p.parse tokens none).1 = .ok ns → (q.parse tokens none).1 = .ok (ns.remove d) := by
  intro hall
  have hnamed : (({} : ArgumentParser).addArgument { typeInfo with dest := .named "GR" }).map
      (fun (_, p) => (p.parse ["-GR"] none).1) = .ok (.ok (.ofList [("GR", .bool true)])) := by
    decide +kernel
  have hanonymous : (({} : ArgumentParser).addArgument { typeInfo with dest := .anonymous }).map
      (fun (_, q) => (q.parse ["-GR"] none).1) =
        .ok (.error (.requiredAttributeMissing "@anonymous_8" (some "-GR-"))) := by
    decide +kernel
  cases hp : ({} : ArgumentParser).addArgument { typeInfo with dest := .named "GR" } with
  | error e => exact nomatch hp ▸ hnamed
  | ok added =>
    cases hq : ({} : ArgumentParser).addArgument { typeInfo with dest := .anonymous } with
    | error e => exact nomatch hq ▸ hanonymous
    | ok added' =>
      rw [hp] at hnamed
      rw [hq] at hanonymous
      have hsame := hall added.2 added'.2 {} typeInfo "GR" (Declares.new.addArgument hp)
        (Declares.new.addArgument hq) ⟨fun _ h => (nomatch h), fun _ h => (nomatch h)⟩ rfl ["-GR"] _
        (Except.ok.inj hnamed)
      exact nomatch (Except.ok.inj hanonymous).symm.trans hsame

end ArgumentParser

end TokenGrammar