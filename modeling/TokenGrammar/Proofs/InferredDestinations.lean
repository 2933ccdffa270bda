import TokenGrammar.Proofs.Compilation

/-!
# Inferred destinations

An argument that names no destination gets one: an optional argument from its flags or prefixes,
with an underscore for everything that is not alphanumeric, and a positional one its name as it is.
To name that destination makes the same declaration, if it may be named at all. That of an optional
argument always may, but the name of a positional one need not be a name of a destination.

* `Flags.isDestName_of_inferDest`: what is inferred from a flag may be named;
* `ArgumentKind.Infers`: the destinations that are inferred, by the kind of the argument;
* `Declaration.ofArgument_named`: the declaration with the inferred destination named;
* `ArgumentParser.addArgument_named`: the argument parser that it leads to.
-/

namespace TokenGrammar

/-- Every character of what is inferred from a flag is an underscore or alphanumeric. -/
theorem Flags.isDestName_of_inferDest {prefixChars : String} {flag : Option String} {dest : String}
    (h : inferDest prefixChars flag = .ok dest) : Declaration.isDestName dest = true := by
  rw [inferDest] at h
  split at h
  · exact nomatch h
  split at h
  · exact nomatch h
  rename_i cs _
  obtain rfl := Except.ok.inj h
  rw [Declaration.isDestName, String.toList_ofList, List.all_map, List.all_eq_true]
  intro c _
  cases hc : Text.isAlphanumeric c with
  | true => simp [hc]
  | false => simp [hc]

/-- What the inferred destination of an argument is like: a name of a destination, or the name of
the argument if it is a positional one. -/
def ArgumentKind.Infers (dest : String) : ArgumentKind → Prop
  | .optional _ _ => Declaration.isDestName dest = true
  | .positional name => dest = name

namespace Declaration

variable {base : Nat} {a : Argument} {settings : Settings} {prefixChars : String}

/-- An optional argument has the same spellings if its inferred destination is named. -/
theorem flags_named {spelled : Flags} (h : Flags.ofArgument a prefixChars = .ok spelled)
    (hinfer : a.dest = .infer) :
    ∃ dest, spelled.dest = some dest ∧ isDestName dest = true ∧
      Flags.ofArgument { a with dest := .named dest } prefixChars = .ok spelled := by
  rw [Flags.ofArgument, hinfer] at h
  split at h
  · exact nomatch h
  · rename_i hfind
    obtain ⟨_, hdest, h⟩ := bind_eq_ok.mp h
    obtain rfl := Except.ok.inj h
    cases hinferred : Flags.inferDest prefixChars _ with
    | error e => exact nomatch hinferred ▸ hdest
    | ok dest =>
      rw [hinferred] at hdest
      obtain rfl := Except.ok.inj hdest
      refine ⟨dest, rfl, Flags.isDestName_of_inferDest hinferred, ?_⟩
      rw [Flags.ofArgument]
      simp only [hfind]
      rfl

theorem resolveKind_named {kinded : Kinded} (h : resolveKind a prefixChars = .ok kinded)
    (hinfer : a.dest = .infer) :
    ∃ dest, kinded.dest = some dest ∧ kinded.kind.Infers dest ∧
      resolveKind { a with dest := .named dest } prefixChars = .ok kinded := by
  have hkind (dest : Dest) : isOptional { a with dest } prefixChars = isOptional a prefixChars :=
    rfl
  simp only [resolveKind, hkind] at h ⊢
  split at h
  · rename_i hoptional
    obtain ⟨spelled, hspelled, rfl⟩ := resolveOptional_eq_ok.mp h
    obtain ⟨dest, hdest, hname, hnamed⟩ := flags_named hspelled hinfer
    exact ⟨dest, hdest, hname, if_pos hoptional ▸ resolveOptional_eq_ok.mpr ⟨_, hnamed, rfl⟩⟩
  · rename_i hpositional
    rw [resolvePositional] at h
    split at h
    · cases h
    · rename_i name hname
      obtain rfl := Except.ok.inj h
      refine ⟨name, by simp only [hinfer], rfl, ?_⟩
      rw [if_neg hpositional, resolvePositional]
      simp only [hname, hinfer]

/-- An argument resolves to the same if its inferred destination is named. -/
theorem resolve_named {r : ResolvedArgument} (h : resolve a settings = .ok r)
    (hinfer : a.dest = .infer) :
    ∃ dest, r.dest = some dest ∧ r.kind.Infers dest ∧
      resolve { a with dest := .named dest } settings = .ok r := by
  obtain ⟨regexp, kinded, hpattern, hkinded, rfl⟩ := resolve_eq_ok.mp h
  obtain ⟨dest, hdest, hinfers, hnamed⟩ := resolveKind_named hkinded hinfer
  exact ⟨dest, hdest, hinfers, resolve_eq_ok.mpr ⟨regexp, kinded, hpattern, hnamed, rfl⟩⟩

/-- Only the check of a named destination may come between the two declarations. -/
theorem ofArgument_named {d : Declaration} (h : ofArgument base a settings {} = .ok d)
    (hinfer : a.dest = .infer) :
    ∃ r dest, resolve a settings = .ok r ∧ r.dest = some dest ∧ r.kind.Infers dest ∧
      ofArgument base { a with dest := .named dest } settings {} =
        if isDestName dest then .ok d else .error (.invalidDest dest) := by
  obtain ⟨-, r, hresolve, happly⟩ := ofArgument_eq_ok.mp h
  obtain ⟨dest, hdest, hinfers, hnamed⟩ := resolve_named hresolve hinfer
  refine ⟨r, dest, hresolve, hdest, hinfers, ?_⟩
  split
  · rename_i hname
    exact ofArgument_eq_ok.mpr ⟨if_pos hname, r, hnamed, happly⟩
  · rename_i hname
    have hcheck : checkDest (.named dest) = .error (.invalidDest dest) := if_neg hname
    rw [ofArgument, Argument.inherit_none]
    simp only [hcheck]
    rfl

end Declaration

namespace ArgumentParser

/-- If an argument is accepted whose destination is inferred, the same argument with this
destination named is accepted just if the name passes the check of names, and then it leads to the
same argument parser: the two do the same in every parse. It passes if the argument is an optional
one; the destination of a positional one is its name. -/
theorem addArgument_named {p q : ArgumentParser} {a : Argument} {rule : Rule}
    (h : p.addArgument a = .ok (rule, q)) (hinfer : (a.inherit p.defaults).dest = .infer) :
    ∃ resolved dest,
      Declaration.resolve (a.inherit p.defaults) p.settings = .ok resolved ∧
      resolved.dest = some dest ∧ resolved.kind.Infers dest ∧
      p.addArgument { a with dest := .named dest } =
        if Declaration.isDestName dest then .ok (rule, q) else .error (.invalidDest dest) := by
  obtain ⟨d, hd, rfl, rfl⟩ := addArgument_eq_ok.mp h
  rw [← ofArgument_inherit] at hd
  obtain ⟨resolved, dest, hresolve, hdest, hinfers, hnamed⟩ :=
    Declaration.ofArgument_named hd hinfer
  refine ⟨resolved, dest, hresolve, hdest, hinfers, ?_⟩
  have hinherit : ({ a with dest := .named dest } : Argument).inherit p.defaults =
      { a.inherit p.defaults with dest := .named dest } := by simp [Argument.inherit]
  rw [addArgument, ← ofArgument_inherit, hinherit, hnamed]
  split <;> rfl

/-- A flag of two words. -/
def dryRun : Argument := { names := ["-n", "--dry-run"], action := some .storeTrue }

theorem addArgument_named_dryRun :
    ∃ rule q, ({} : ArgumentParser).addArgument dryRun = .ok (rule, q) ∧
      ({} : ArgumentParser).addArgument { dryRun with dest := .named "dry_run" } =
        .ok (rule, q) := by
  obtain ⟨rule, q, h⟩ : ∃ rule q, ({} : ArgumentParser).addArgument dryRun = .ok (rule, q) :=
    ⟨_, _, rfl⟩
  obtain ⟨resolved, dest, hresolve, hdest, -, hnamed⟩ := addArgument_named h rfl
  have hinferred : (Declaration.resolve (dryRun.inherit {}) {}).toOption.bind (·.dest) =
      some "dry_run" := by decide +kernel
  have hresolve' : Declaration.resolve (dryRun.inherit {}) {} = .ok resolved := hresolve
  rw [hresolve', Except.toOption, Option.bind_some, hdest] at hinferred
  obtain rfl := Option.some.inj hinferred
  exact ⟨rule, q, h, hnamed.trans (if_pos (by decide))⟩

/-- The name of a positional argument may have any characters. -/
theorem not_forall_addArgument_named :
    ¬ ∀ (p q : ArgumentParser) (a : Argument) (rule : Rule) (resolved : ResolvedArgument)
        (dest : String), p.addArgument a = .ok (rule, q) →
      (a.inherit p.defaults).dest = .infer →
      Declaration.resolve (a.inherit p.defaults) p.settings = .ok resolved →
      resolved.dest = some dest →
      p.addArgument { a with dest := .named dest } = .ok (rule, q) ∧
        Declaration.isDestName dest = true := by
  intro h
  obtain ⟨rule, q, hadd⟩ : ∃ rule q,
      ({} : ArgumentParser).addArgument { names := ["in-file"] } = .ok (rule, q) := ⟨_, _, rfl⟩
  obtain ⟨resolved, hresolve, hdest⟩ : ∃ resolved, Declaration.resolve
      (({ names := ["in-file"] } : Argument).inherit {}) {} = .ok resolved ∧
        resolved.dest = some "in-file" := ⟨_, rfl, rfl⟩
  have hname := (h {} q _ rule resolved "in-file" hadd rfl hresolve hdest).2
  exact absurd hname (by decide)

end ArgumentParser

end TokenGrammar
