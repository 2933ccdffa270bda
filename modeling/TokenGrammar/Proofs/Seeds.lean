import TokenGrammar.Proofs.Composition
import TokenGrammar.Proofs.Conservation
import TokenGrammar.Proofs.Lockstep

/-!
# Attributes at the start

A parse may start from attributes, and handlers that add to what is there read them. But no rule
asks what an attribute holds. So whatever the attributes at the start are, a parse matches and skips
the same tokens, and it leaves those alone that nothing in it writes.

* `Rule.Library.twin_of_put`: a rule runs side by side with itself from any two namespaces, as long
  as what relates them does not depend on what the rule writes;
* `TokenParser.Keeps`: attributes that are as at the start wherever nothing writes them.
  `TokenParser.parse_cases`: two parses of the same tokens, from any attributes each;
* `TokenParser.unparsed_eq_of_seeds`: they give up on the same tokens, in a lenient parse as in a
  strict one, and neither changes an attribute that is not its own.
-/

namespace TokenGrammar

/-- A tree is its own twin where it does not matter what is written to its destinations. -/
theorem Rule.Library.twin_of_put {N : Namespace → Namespace → Prop} {rule : Rule}
    (h : rule.Library Handler.Confined)
    (hput : rule.Each fun r => ∀ dest ∈ r.dests, ∀ ns ns' value? value'?, N ns ns' →
      N (ns.put dest value?) (ns'.put dest value'?)) : Rule.Twin N rule rule := by
  refine Each.twin ((h.and hput).mono fun r hr => ?_)
  obtain ⟨hlibrary, hdests⟩ := hr
  cases r with
  | collect collector handler =>
    exact Handler.Confined.twins_of_put hlibrary (hdests _ (List.mem_singleton_self _))
  | capture id dests rule format handler =>
    exact fun dest hdest => Handler.Confined.twins_of_put hlibrary (hdests dest hdest)
  | custom step => exact hlibrary.elim
  | _ => trivial

namespace TokenParser

variable {p : TokenParser} {mode : Mode} {start start' ns ns' : Namespace}

/-- Every attribute that neither a rule nor a validator nor the loop writes is as at the start. -/
def Keeps (p : TokenParser) (mode : Mode) (start ns : Namespace) : Prop :=
  ∀ name, p.Spares name → name ∉ mode.unknownDest → ns.get? name = start.get? name

theorem Keeps.put (h : p.Keeps mode start ns) {dest : String}
    (hdest : p.Spares dest → dest ∈ mode.unknownDest) (value? : Option Value) :
    p.Keeps mode start (ns.put dest value?) := by
  intro name hspares hname
  rw [Namespace.get?_put_of_ne ns value?, h name hspares hname]
  rintro rfl
  exact hname (hdest hspares)

theorem Keeps.validate (h : p.Keeps mode start ns)
    (hvalidate : TokenParser.validate mode p.validators ns = .ok ns') :
    p.Keeps mode start ns' := by
  intro name hspares hname
  rw [get?_validate hspares.2 hvalidate, h name hspares hname]

/-- Two parses of the same tokens, from any attributes each, fail alike before any validator is run,
or give up on the same tokens with what they do not write as it was at the start. -/
theorem parse_cases (h : ∀ r ∈ p.rules, r.Library Handler.BuiltIn) (mode : Mode)
    (tokens : List String) (seed seed' : Option Namespace) :
    (∃ e, p.parse mode tokens seed = .error e ∧ p.parse mode tokens seed' = .error e) ∨
      ∃ unparsed ns ns', p.Keeps mode (seed.getD .empty) ns ∧
        p.Keeps mode (seed'.getD .empty) ns' ∧
        p.parse mode tokens seed = (validate mode p.validators ns).map (·, unparsed) ∧
        p.parse mode tokens seed' = (validate mode p.validators ns').map (·, unparsed) := by
  let N (ns ns' : Namespace) : Prop :=
    p.Keeps mode (seed.getD .empty) ns ∧ p.Keeps mode (seed'.getD .empty) ns'
  have hput {dest : String} (hdest : p.Spares dest → dest ∈ mode.unknownDest)
      (ns ns' : Namespace) (value? value'? : Option Value) (hns : N ns ns') :
      N (ns.put dest value?) (ns'.put dest value'?) :=
    ⟨hns.1.put hdest value?, hns.2.put hdest value'?⟩
  have hrules : List.Forall₂ (Rule.Twin N) p.rules p.rules := by
    refine List.forall₂_same.mpr fun r hr => ?_
    have hlibrary : r.Library Handler.Confined :=
      (h r hr).of_handlers fun _ => Handler.confined_of_builtIn
    have heach : r.Each fun q => ∀ name : {name // p.Spares name}, name.1 ∉ q.dests :=
      (h r hr).forall_intro fun name => name.2.1 r hr
    refine hlibrary.twin_of_put (heach.mono fun q hq dest hdest => hput fun hspares => ?_)
    exact absurd hdest (hq ⟨dest, hspares⟩)
  have hextend : Handler.extend.Confined := Handler.confined_of_builtIn trivial
  have hunknown : ∀ dest ∈ mode.unknownDest, Handler.extend.Twins N dest .extend dest :=
    fun dest hdest => hextend.twins_of_put (hput fun _ => hdest)
  obtain hfails | ⟨unparsed, ns, ns', hns, hparse, hparse'⟩ :=
    twin_parse hrules hunknown (⟨fun _ _ _ => rfl, fun _ _ _ => rfl⟩ : N _ _) tokens
  · exact .inl hfails
  · exact .inr ⟨unparsed, ns, ns', hns.1, hns.2, hparse, hparse'⟩

/-- No validator complains about tokens. -/
theorem validate_strict_ne_unparsed (vs : List Validator) (ns : Namespace) (left : List String) :
    validate .strict vs ns ≠ .error (.unparsedTokens left) := by
  intro hvalidate
  obtain ⟨ms, hms, -⟩ | ⟨e, hfirst, he⟩ := validate_strict_cases vs ns
  · exact nomatch hms.symm.trans hvalidate
  · obtain rfl := Except.error.inj (he.symm.trans hvalidate)
    exact hfirst.ofValidator.elim

/-- A parse matches and gives up on the same tokens from any attributes at the start. An attribute
that neither a rule nor a validator nor the loop writes is after a parse what it was before, and if
it was missing, it is missing. -/
theorem unparsed_eq_of_seeds (h : ∀ r ∈ p.rules, r.Library Handler.BuiltIn ∧ r.Apart)
    (tokens : List String) (seed seed' : Option Namespace) :
    (∀ dests, ∃ unparsed ns ns', p.parseLenient tokens seed dests = .ok (ns, unparsed) ∧
      p.parseLenient tokens seed' dests = .ok (ns', unparsed) ∧
      ∀ name, p.Spares name → name ∉ dests →
        ns.get? name = (seed.getD .empty).get? name ∧
          ns'.get? name = (seed'.getD .empty).get? name) ∧
      (∀ left, p.parseStrict tokens seed = .error (.unparsedTokens left) ↔
        p.parseStrict tokens seed' = .error (.unparsedTokens left)) ∧
      ∀ ns, p.parseStrict tokens seed = .ok ns →
        ∀ name, p.Spares name → ns.get? name = (seed.getD .empty).get? name := by
  have hlibrary : ∀ r ∈ p.rules, r.Library Handler.BuiltIn := fun r hr => (h r hr).1
  have hstrict := parse_cases hlibrary .strict tokens seed seed'
  refine ⟨fun dests => ?_, fun left => ?_, fun ns hns => ?_⟩
  · obtain ⟨ns, unparsed, hparse⟩ := ((sound_of_builtIn h).reliable tokens seed).1 dests
    obtain ⟨e, he, -⟩ | ⟨unparsed', ms, ms', hms, hms', heq, heq'⟩ :=
      parse_cases hlibrary (.lenient dests) tokens seed seed'
    · cases he.symm.trans hparse
    · obtain ⟨ks, hks⟩ := validate_lenient dests p.validators ms
      obtain ⟨ks', hks'⟩ := validate_lenient dests p.validators ms'
      rw [hks] at heq
      rw [hks'] at heq'
      exact ⟨unparsed', ks, ks', heq, heq', fun name hspares hname =>
        ⟨hms.validate hks name hspares hname, hms'.validate hks' name hspares hname⟩⟩
  · obtain ⟨e, he, he'⟩ | ⟨unparsed, ms, ms', -, -, heq, heq'⟩ := hstrict
    · rw [parseStrict, parseStrict, he, he']
    · have hne (ks : Namespace) : ((validate .strict p.validators ks).map (·, unparsed)).map (·.1) ≠
          .error (.unparsedTokens left) := by
        have := validate_strict_ne_unparsed p.validators ks left
        cases hvalidate : validate .strict p.validators ks with
        | ok _ =>
          intro heq
          cases heq
        | error e =>
          rw [hvalidate] at this
          exact this
      rw [parseStrict, parseStrict, heq, heq']
      exact ⟨fun heq => absurd heq (hne ms), fun heq => absurd heq (hne ms')⟩
  · rw [parseStrict] at hns
    obtain ⟨e, he, -⟩ | ⟨unparsed, ms, ms', hms, -, heq, -⟩ := hstrict
    · rw [he] at hns
      cases hns
    · rw [heq] at hns
      cases hvalidate : validate .strict p.validators ms with
      | error e =>
        rw [hvalidate] at hns
        cases hns
      | ok ks =>
        rw [hvalidate] at hns
        obtain rfl := Except.ok.inj hns
        exact fun name hspares => hms.validate hvalidate name hspares List.not_mem_nil

/-- What was there is added to in one of the parses, and not in the other; a point is left by
both. -/
theorem unparsed_eq_of_seeds_items :
    (∃ ns ns', items.parseLenient ["a", ".", "b"] none ["rest"] = .ok (ns, ["."]) ∧
      items.parseLenient ["a", ".", "b"]
        (some (.ofList [("items", .str "z"), ("kept", .int 1)])) ["rest"] = .ok (ns', ["."]) ∧
      ns.get? "kept" = none ∧ ns'.get? "kept" = some (.int 1)) ∧
      items.parseStrict ["a", ".", "b"] (some (.ofList [("items", .str "z"), ("kept", .int 1)])) =
        .error (.unparsedTokens [".", "b"]) := by
  obtain ⟨hlenient, hstrict, -⟩ := unparsed_eq_of_seeds
    (fun r hr => ⟨composed_items.library r hr, composed_items.apart r hr⟩) ["a", ".", "b"] none
    (some (.ofList [("items", .str "z"), ("kept", .int 1)]))
  obtain ⟨unparsed, ns, ns', hparse, hparse', hkept⟩ := hlenient ["rest"]
  have hunparsed : (items.parseLenient ["a", ".", "b"] none ["rest"]).map (·.2) = .ok ["."] := by
    decide +kernel
  obtain rfl : unparsed = ["."] := by
    rw [hparse] at hunparsed
    exact Except.ok.inj hunparsed
  have hspares : items.Spares "kept" := by decide
  obtain ⟨hnone, hsome⟩ := hkept "kept" hspares (by decide)
  refine ⟨⟨ns, ns', hparse, hparse', hnone, hsome⟩, (hstrict _).mp ?_⟩
  decide +kernel

end TokenParser

end TokenGrammar
