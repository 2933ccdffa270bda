import TokenGrammar.Proofs.Renaming

/-!
# Attributes that are removed

What is made up for an argument without the name of a destination is removed behind all that is
checked of it, so it is not part of the result of a parse.

* `TokenParser.Drops`: validators that remove an attribute. `Declaration.drops_build`,
  `Declaration.drops_flagPair`: those of an argument remove what was made up for it;
* `Call.ignores_or_drops`: a grammar has nothing to do with an attribute that its calls do not name,
  or removes it;
* `TokenParser.get?_parse_eq_none`: then the attribute is not part of a result.
-/

namespace TokenGrammar

namespace TokenParser

variable {mode : Mode} {vs : List Validator} {ns ms : Namespace}

/-- Validators that remove the attribute, and are not about it afterwards. -/
def Drops (vs : List Validator) (name : String) : Prop :=
  ∃ init tail, vs = init ++ .remove name :: tail ∧ ∀ v ∈ tail, v.dest ≠ name

theorem Drops.prepend {name : String} (h : Drops vs name) (before : List Validator) :
    Drops (before ++ vs) name := by
  obtain ⟨init, tail, rfl, htail⟩ := h
  exact ⟨before ++ init, tail, (List.append_assoc ..).symm, htail⟩

theorem Drops.append {name : String} (h : Drops vs name) {after : List Validator}
    (hafter : ∀ v ∈ after, v.dest ≠ name) : Drops (vs ++ after) name := by
  obtain ⟨init, tail, rfl, htail⟩ := h
  exact ⟨init, tail ++ after, by simp, List.forall_mem_append.mpr ⟨htail, hafter⟩⟩

/-- An attribute that is removed is not part of the result. -/
theorem Drops.get?_eq_none {name : String} (h : Drops vs name)
    (hvalidate : validate mode vs ns = .ok ms) : ms.get? name = none := by
  obtain ⟨init, tail, rfl, htail⟩ := h
  rw [validate_append] at hvalidate
  obtain ⟨mid, -, hvalidate⟩ := Declaration.bind_eq_ok.mp hvalidate
  have htail' : ∀ v ∈ tail, v.writes? ≠ some name := fun v hv => Validator.writes?_ne (htail v hv)
  have hkept : ms.get? name = (mid.remove name).get? name := get?_validate htail' hvalidate
  rw [hkept, Namespace.get?_remove_self]

/-- An attribute that the grammar has nothing to do with, or removes, is not part of the result. -/
theorem get?_parse_eq_none {p : TokenParser} {name : String}
    (h : p.Ignores name ∨ Drops p.validators name)
    (hlibrary : ∀ r ∈ p.rules, r.Library Handler.Confined) (hunknown : name ∉ mode.unknownDest)
    {seed : Option Namespace} (hseed : (seed.getD .empty).get? name = none) {tokens : List String}
    {unparsed : List String} (hparse : p.parse mode tokens seed = .ok (ns, unparsed)) :
    ns.get? name = none := by
  let N (ns ns' : Namespace) : Prop := ns' = ns ∧ (p.Ignores name → ns.get? name = none)
  have hstable {other : String} (hother : p.Ignores name → other ≠ name) :
      Namespace.Stable N other := by
    refine ⟨fun _ _ hns => by rw [hns.1], fun ns _ value hns => ⟨by rw [hns.1], fun hig => ?_⟩,
      fun ns _ hns => ⟨by rw [hns.1], fun hig => ?_⟩⟩
    · rw [ns.get?_set_of_ne value (hother hig).symm, hns.2 hig]
    · rw [ns.get?_remove_of_ne (hother hig).symm, hns.2 hig]
  have hrules : List.Forall₂ (Rule.Twin N) p.rules p.rules := by
    refine List.forall₂_same.mpr fun r hr => (hlibrary r hr).twin ?_
    have heach : r.Each fun q => ∀ _ : p.Ignores name, name ∉ q.dests :=
      (hlibrary r hr).forall_intro fun hig => hig.1 r hr
    exact heach.mono fun q hq dest hdest => hstable fun hig heq => hq hig (heq ▸ hdest)
  have hextend : Handler.extend.Confined := Handler.confined_of_builtIn trivial
  obtain ⟨e, he, -⟩ | ⟨_, ms, _, hms, heq, -⟩ := twin_parse hrules
    (fun dest hdest => hextend.twins_of_stable (hstable fun _ heq => hunknown (heq ▸ hdest)))
    (⟨rfl, fun _ => hseed⟩ : N (seed.getD .empty) (seed.getD .empty)) tokens
  · exact nomatch he.symm.trans hparse
  · rw [heq] at hparse
    cases hvalidate : validate mode p.validators ms with
    | error e => exact nomatch hvalidate ▸ hparse
    | ok ks =>
      rw [hvalidate] at hparse
      obtain ⟨rfl, -⟩ := Prod.mk.inj (Except.ok.inj hparse)
      obtain hig | hdrops := h
      · rw [get?_validate (fun v hv => Validator.writes?_ne (hig.2 v hv)) hvalidate, hms.2 hig]
      · exact hdrops.get?_eq_none hvalidate

end TokenParser

namespace Declaration

open TokenParser (Drops)

variable {base : Nat} {r : ResolvedArgument} {a : Argument} {settings : Settings} {x : Declaration}
  {name : String}

/-- What was made up for an argument is removed. -/
theorem drops_build (hdest : r.dest = none) :
    Drops (build base r).validators (anonymousDest base) := by
  refine ⟨checks r (anonymousDest base), [], ?_, fun v hv => nomatch hv⟩
  rw [validators_build, hdest]
  rfl

theorem drops_flagPair (base : Nat) (hdest : r.dest = none) (trueSuffix falseSuffix : String) :
    Drops (flagPair base r trueSuffix falseSuffix).validators (anonymousDest base) ∧
      Drops (flagPair base r trueSuffix falseSuffix).validators
        (anonymousDest (base + buildWidth)) := by
  have hon : Drops (build base (flagVariant r true trueSuffix)).validators (anonymousDest base) :=
    drops_build hdest
  have hoff : Drops (build (base + buildWidth) (flagVariant r false falseSuffix)).validators
      (anonymousDest (base + buildWidth)) := drops_build hdest
  refine ⟨hon.append fun v hv heq => ?_, hoff.prepend _⟩
  have hother : v.dest = anonymousDest (base + buildWidth) := by
    rw [dest_of_mem_build hv, flagVariant, hdest, Option.getD_none]
  have hsame : base = base + buildWidth := anonymousDest_inj (heq.symm.trans hother)
  simp [buildWidth] at hsame

/-- An argument that does not name an attribute has nothing to do with it, or has made it up and
removes it. -/
theorem ignores_or_drops (h : ofArgument base a settings {} = .ok x)
    (hname : ¬ (Call.argument settings a).Mentions name) :
    x.Ignores name ∨ TokenParser.Drops x.validators name := by
  obtain ⟨-, r, hr, hx⟩ := ofArgument_eq_ok.mp h
  have hraw : name ∉ r.rawDest := fun hmem => hname ⟨r, hr, .inr hmem⟩
  have hmade {id : Nat} (heq : name = r.dest.getD (anonymousDest id)) :
      r.dest = none ∧ name = anonymousDest id := by
    cases hdest : r.dest with
    | none => exact ⟨rfl, by rwa [hdest] at heq⟩
    | some dest =>
      rw [hdest] at heq
      exact absurd ⟨r, hr, .inl (hdest.trans (congrArg some heq.symm))⟩ hname
  obtain ⟨s, hs, rfl⟩ | rfl := applyAction_cases hx
  · by_cases heq : name = r.dest.getD (anonymousDest base)
    · obtain ⟨hnone, rfl⟩ := hmade heq
      exact .inr (drops_build (hs.dest.trans hnone))
    · exact .inl (ignores_build (hs.dest ▸ heq) (hs.rawDest ▸ hraw))
  · by_cases hon : name = r.dest.getD (anonymousDest base)
    · obtain ⟨hnone, rfl⟩ := hmade hon
      exact .inr (drops_flagPair base hnone _ _).1
    · by_cases hoff : name = r.dest.getD (anonymousDest (base + buildWidth))
      · obtain ⟨hnone, rfl⟩ := hmade hoff
        exact .inr (drops_flagPair base hnone _ _).2
      · exact .inl (ignores_flagPair hon hoff hraw _ _)

end Declaration

/-- A grammar whose calls do not name an attribute has nothing to do with it, or removes it. -/
theorem Call.ignores_or_drops {number : Nat} {calls : List Call} {p : TokenParser} {name : String}
    (h : compile number calls = .ok p) (hname : ∀ call ∈ calls, ¬ call.Mentions name) :
    p.Ignores name ∨ TokenParser.Drops p.validators name := by
  induction calls generalizing number p with
  | nil =>
    cases h
    exact .inl ⟨fun r hr => (nomatch hr), fun v hv => (nomatch hv)⟩
  | cons call calls ih =>
    obtain ⟨hcall, hcalls⟩ := List.forall_mem_cons.mp hname
    cases call with
    | argument settings a =>
      obtain ⟨x, rest, hx, hrest, rfl⟩ := compile_argument.mp h
      obtain hrest | hrest := ih hrest hcalls
      · obtain hown | hown := Declaration.ignores_or_drops hx hcall
        · exact .inl ⟨List.forall_mem_cons.mpr ⟨hown.1, hrest.1⟩,
            List.forall_mem_append.mpr ⟨hown.2, hrest.2⟩⟩
        · exact .inr (hown.append hrest.2)
      · exact .inr (hrest.prepend x.validators)
    | default dest value =>
      obtain ⟨rest, hrest, rfl⟩ := compile_default.mp h
      obtain hrest | hrest := ih hrest hcalls
      · exact .inl ⟨hrest.1, List.forall_mem_cons.mpr ⟨hcall, hrest.2⟩⟩
      · exact .inr (hrest.prepend [.default dest value])

end TokenGrammar
