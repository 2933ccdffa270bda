import TokenGrammar.TokenParser

/-!
# Runs of validators

What the validators of a parser do to the finished attributes, one after the other.

* `TokenParser.validate_induction`: what each validator keeps, all of them keep;
* `Validator.get?_apply`, `TokenParser.get?_validate`: a validator changes no attribute but its own;
* `Validator.ofValidator_of_apply`: what a validator may complain about, and
  `Validator.apply_tooMany`: where there are too many values;
* `TokenParser.exists_apply_of_validate`: an error is that of one validator, which says what it is
  about;
* `TokenParser.validate_lenient`: a lenient parse goes on after each complaint;
* `TokenParser.validate_strict_cases`: a strict parse ends with the first one, and agrees with a
  lenient parse where there is none.
-/

namespace TokenGrammar

/-- What validators complain about: a missing attribute, or a count of values. -/
def Error.OfValidator : Error → Prop
  | .requiredAttributeMissing _ _ | .notEnoughValues _ _ _ _ | .tooManyValues _ _ _ _ => True
  | _ => False

namespace Validator

variable {v : Validator} {ns ns' : Namespace}

/-- The attribute that a validator may change. -/
def writes? : Validator → Option String
  | .default dest _ | .remove dest => some dest
  | .require _ _ | .count _ _ _ => none

/-- The attribute that a validator is about. -/
def dest : Validator → String
  | .require dest _ | .default dest _ | .remove dest | .count dest _ _ => dest

theorem writes?_ne {name : String} (h : v.dest ≠ name) : v.writes? ≠ some name := by
  cases v with
  | default dest value => exact fun heq => h (Option.some.inj heq)
  | remove dest => exact fun heq => h (Option.some.inj heq)
  | require dest context => exact Option.some_ne_none name ∘ Eq.symm
  | count dest bounds context => exact Option.some_ne_none name ∘ Eq.symm

theorem apply_count {dest : String} {bounds : Bounds} {context : Option String} {value : Value}
    (h : ns.get? dest = some value) : (count dest bounds context).apply ns =
      (checkCount dest bounds context value.toList).map fun _ => ns := by
  simp only [apply, h]

/-- Counting changes nothing. -/
theorem apply_count_eq_ok {dest : String} {bounds : Bounds} {context : Option String}
    (h : (count dest bounds context).apply ns = .ok ns') : ns' = ns := by
  cases hget : ns.get? dest with
  | none =>
    simp only [apply, hget] at h
    exact (Except.ok.inj h).symm
  | some value =>
    rw [apply_count hget] at h
    cases hcheck : checkCount dest bounds context value.toList with
    | ok u =>
      rw [hcheck] at h
      exact (Except.ok.inj h).symm
    | error e =>
      rw [hcheck] at h
      cases h

/-- Only values that are there are counted. -/
theorem apply_count_eq_error {dest : String} {bounds : Bounds} {context : Option String} {e : Error}
    (h : (count dest bounds context).apply ns = .error e) :
    ∃ value, ns.get? dest = some value ∧
      checkCount dest bounds context value.toList = .error e := by
  cases hget : ns.get? dest with
  | none =>
    simp only [apply, hget] at h
    cases h
  | some value =>
    rw [apply_count hget] at h
    refine ⟨value, rfl, ?_⟩
    cases hcheck : checkCount dest bounds context value.toList with
    | ok u =>
      rw [hcheck] at h
      cases h
    | error e' =>
      rw [hcheck] at h
      rw [Except.error.inj h]

/-- A validator changes no attribute but its own. -/
theorem get?_apply {name : String} (h : v.writes? ≠ some name) (happly : v.apply ns = .ok ns') :
    ns'.get? name = ns.get? name := by
  cases v with
  | require dest context =>
    rw [apply] at happly
    split at happly
    · obtain rfl := Except.ok.inj happly
      rfl
    · exact nomatch happly
  | default dest value =>
    have hne : name ≠ dest := fun heq => h (congrArg some heq.symm)
    obtain rfl := Except.ok.inj happly
    split
    · rfl
    · exact ns.get?_set_of_ne value hne
  | remove dest =>
    have hne : name ≠ dest := fun heq => h (congrArg some heq.symm)
    obtain rfl := Except.ok.inj happly
    exact ns.get?_remove_of_ne hne
  | count dest bounds context => rw [apply_count_eq_ok happly]

theorem ofValidator_of_checkCount {dest : String} {bounds : Bounds} {context : Option String}
    {values : List Value} {e : Error} (h : checkCount dest bounds context values = .error e) :
    e.OfValidator := by
  rw [checkCount] at h
  split at h
  · obtain rfl := Except.error.inj h
    trivial
  · split at h
    · split at h
      · obtain rfl := Except.error.inj h
        trivial
      · exact nomatch h
    · exact nomatch h

theorem checkCount_eq_ok {dest : String} {bounds : Bounds} {context : Option String}
    {values : List Value} : checkCount dest bounds context values = .ok () ↔
      bounds.least ≤ values.length ∧ ∀ most ∈ bounds.most, values.length ≤ most := by
  rw [checkCount, ← Nat.not_lt]
  split
  · simp [*]
  · cases bounds.most <;> simp [*]

/-- What is counted as too much is more than the upper bound. -/
theorem checkCount_tooMany {dest dest' : String} {bounds : Bounds}
    {context context' : Option String} {values values' : List Value} {most : Nat}
    (h : checkCount dest bounds context values =
      .error (.tooManyValues dest' most values' context')) :
    dest = dest' ∧ most ∈ bounds.most ∧ most < values.length := by
  rw [checkCount] at h
  split at h
  · exact nomatch h
  · split at h
    · rename_i bound hbound
      split at h
      · cases h
        exact ⟨rfl, hbound, ‹_›⟩
      · exact nomatch h
    · exact nomatch h

/-- A validator complains about a missing attribute or about a count of values. -/
theorem ofValidator_of_apply {e : Error} (h : v.apply ns = .error e) : e.OfValidator := by
  cases v with
  | require dest context =>
    rw [apply] at h
    split at h
    · exact nomatch h
    · obtain rfl := Except.error.inj h
      trivial
  | default dest value => exact nomatch h
  | remove dest => exact nomatch h
  | count dest bounds context =>
    obtain ⟨value, -, hcheck⟩ := apply_count_eq_error h
    exact ofValidator_of_checkCount hcheck

/-- The validator counts the values of the attribute. -/
def Counts (dest : String) : Validator → Prop
  | .count dest' _ _ => dest' = dest
  | _ => False

/-- What complains about too many values has counted those of the attribute. -/
theorem apply_tooMany {dest : String} {most : Nat} {values : List Value} {context : Option String}
    (h : v.apply ns = .error (.tooManyValues dest most values context)) :
    ∃ bounds context value, v = .count dest bounds context ∧ ns.get? dest = some value ∧
      most ∈ bounds.most ∧ most < value.toList.length := by
  cases v with
  | require dest context =>
    rw [apply] at h
    split at h <;> exact nomatch h
  | default dest value => exact nomatch h
  | remove dest => exact nomatch h
  | count dest bounds context =>
    obtain ⟨value, hvalue, hcheck⟩ := apply_count_eq_error h
    obtain ⟨rfl, hmost⟩ := checkCount_tooMany hcheck
    exact ⟨bounds, context, value, rfl, hvalue, hmost⟩

/-- What complains about a missing attribute is about this attribute. -/
theorem dest_of_apply_missing {dest : String} {context : Option String}
    (h : v.apply ns = .error (.requiredAttributeMissing dest context)) : v.dest = dest := by
  cases v with
  | require dest' context' =>
    rw [apply] at h
    split at h
    · exact nomatch h
    · exact (Error.requiredAttributeMissing.inj (Except.error.inj h)).1
  | default dest' value => exact nomatch h
  | remove dest' => exact nomatch h
  | count dest' bounds context' =>
    obtain ⟨value, -, hcheck⟩ := apply_count_eq_error h
    rw [checkCount] at hcheck
    split at hcheck
    · exact nomatch hcheck
    · split at hcheck
      · split at hcheck <;> exact nomatch hcheck
      · exact nomatch hcheck

/-- A validator leaves an attribute that is there, unless it removes it. -/
theorem get?_apply_of_some {name : String} {value : Value} (h : v ≠ .remove name)
    (hsome : ns.get? name = some value) (happly : v.apply ns = .ok ns') :
    ns'.get? name = some value := by
  by_cases hwrites : v.writes? = some name
  · cases v with
    | default dest written =>
      obtain rfl := Option.some.inj hwrites
      have hcontains : ns.contains dest = true := by
        rw [Namespace.contains, hsome, Option.isSome_some]
      obtain rfl := Except.ok.inj happly
      rw [if_pos hcontains, hsome]
    | remove dest => exact absurd (congrArg remove (Option.some.inj hwrites)) h
    | require dest context => exact nomatch hwrites
    | count dest bounds context => exact nomatch hwrites
  · rw [get?_apply hwrites happly, hsome]

end Validator

theorem Mode.aborts_lenient {e : Error} (h : e.OfValidator) (dests : List String) :
    (Mode.lenient dests).aborts e = false := by
  cases e with
  | grammar cause => exact h.elim
  | _ => rfl

theorem Mode.aborts_strict (e : Error) : Mode.strict.aborts e = true := by
  cases e <;> rfl

namespace TokenParser

/-- What each validator keeps, all of them keep: one that complains changes nothing. -/
theorem validate_induction {P : Namespace → Prop} {mode : Mode} {vs : List Validator}
    (h : ∀ v ∈ vs, ∀ ns ns', v.apply ns = .ok ns' → P ns → P ns') {ns ns' : Namespace}
    (hvalidate : validate mode vs ns = .ok ns') (hns : P ns) : P ns' := by
  induction vs generalizing ns with
  | nil =>
    obtain rfl := Except.ok.inj hvalidate
    exact hns
  | cons v vs ih =>
    obtain ⟨hv, hvs⟩ := List.forall_mem_cons.mp h
    rw [validate] at hvalidate
    split at hvalidate
    · rename_i mid happly
      exact ih hvs hvalidate (hv ns mid happly hns)
    · split at hvalidate
      · exact nomatch hvalidate
      · exact ih hvs hvalidate hns

/-- An attribute that no validator may change stays. -/
theorem get?_validate {mode : Mode} {vs : List Validator} {name : String}
    (h : ∀ v ∈ vs, v.writes? ≠ some name) {ns ns' : Namespace}
    (hvalidate : validate mode vs ns = .ok ns') : ns'.get? name = ns.get? name := by
  refine validate_induction (P := fun mid => mid.get? name = ns.get? name) ?_ hvalidate rfl
  exact fun v hv _ _ happly hmid => (Validator.get?_apply (h v hv) happly).trans hmid

/-- An attribute that is there stays where no validator removes it. -/
theorem get?_validate_of_some {mode : Mode} {vs : List Validator} {name : String} {value : Value}
    (h : ∀ v ∈ vs, v ≠ .remove name) {ns ns' : Namespace} (hsome : ns.get? name = some value)
    (hvalidate : validate mode vs ns = .ok ns') : ns'.get? name = some value := by
  refine validate_induction (P := fun mid => mid.get? name = some value) ?_ hvalidate hsome
  exact fun v hv _ _ happly hmid => Validator.get?_apply_of_some (h v hv) hmid happly

/-- An error of validators is that of one of them. -/
theorem exists_apply_of_validate {mode : Mode} {vs : List Validator} {ns : Namespace} {e : Error}
    (h : validate mode vs ns = .error e) : ∃ v ∈ vs, ∃ mid, v.apply mid = .error e := by
  induction vs generalizing ns with
  | nil => exact nomatch h
  | cons v vs ih =>
    have hlater {mid : Namespace} (h : validate mode vs mid = .error e) :
        ∃ w ∈ v :: vs, ∃ mid, w.apply mid = .error e := by
      obtain ⟨w, hw, hfails⟩ := ih h
      exact ⟨w, List.mem_cons_of_mem v hw, hfails⟩
    rw [validate] at h
    split at h
    · exact hlater h
    · rename_i happly
      split at h
      · obtain rfl := Except.error.inj h
        exact ⟨v, List.mem_cons_self, ns, happly⟩
      · exact hlater h

/-- Where nothing counts the values of an attribute, there are not too many. -/
theorem validate_ne_tooManyValues {mode : Mode} {vs : List Validator} {dest : String}
    (h : ∀ v ∈ vs, ¬ v.Counts dest) (ns : Namespace) (most : Nat) (values : List Value)
    (context : Option String) :
    validate mode vs ns ≠ .error (.tooManyValues dest most values context) := by
  intro hvalidate
  obtain ⟨v, hv, mid, happly⟩ := exists_apply_of_validate hvalidate
  obtain ⟨_, _, _, rfl, -⟩ := Validator.apply_tooMany happly
  exact h _ hv rfl

/-- What is about other attributes does not miss this one. -/
theorem validate_ne_requiredAttributeMissing {mode : Mode} {vs : List Validator} {dest : String}
    (h : ∀ v ∈ vs, v.dest ≠ dest) (ns : Namespace) (context : Option String) :
    validate mode vs ns ≠ .error (.requiredAttributeMissing dest context) := by
  intro hvalidate
  obtain ⟨v, hv, mid, happly⟩ := exists_apply_of_validate hvalidate
  exact h v hv (Validator.dest_of_apply_missing happly)

/-- Validators behind others go on from where those end. -/
theorem validate_append {mode : Mode} (vs ws : List Validator) (ns : Namespace) :
    validate mode (vs ++ ws) ns = validate mode vs ns >>= validate mode ws := by
  induction vs generalizing ns with
  | nil => rfl
  | cons v vs ih =>
    rw [List.cons_append, validate, validate]
    cases v.apply ns with
    | ok mid => exact ih mid
    | error e =>
      simp only
      split
      · rfl
      · exact ih ns

/-- A lenient parse goes on after each complaint. -/
theorem validate_lenient (dests : List String) (vs : List Validator) (ns : Namespace) :
    ∃ ns', validate (.lenient dests) vs ns = .ok ns' := by
  induction vs generalizing ns with
  | nil => exact ⟨ns, rfl⟩
  | cons v vs ih =>
    rw [validate]
    cases happly : v.apply ns with
    | ok mid => exact ih mid
    | error e =>
      simp only [Mode.aborts_lenient (Validator.ofValidator_of_apply happly)]
      exact ih ns

/-- The first validator that fails, one after the other from the attributes on, fails with the
error. -/
inductive FirstFailure (e : Error) : List Validator → Namespace → Prop where
  | here {v : Validator} {vs : List Validator} {ns : Namespace} (fails : v.apply ns = .error e) :
      FirstFailure e (v :: vs) ns
  | later {v : Validator} {vs : List Validator} {ns mid : Namespace} (passes : v.apply ns = .ok mid)
      (rest : FirstFailure e vs mid) : FirstFailure e (v :: vs) ns

theorem FirstFailure.ofValidator {e : Error} {vs : List Validator} {ns : Namespace}
    (h : FirstFailure e vs ns) : e.OfValidator := by
  induction h with
  | here fails => exact Validator.ofValidator_of_apply fails
  | later _ _ ih => exact ih

/-- A strict parse ends with the first validator that fails; where none does, it agrees with a
lenient parse. -/
theorem validate_strict_cases (vs : List Validator) (ns : Namespace) :
    (∃ ns', validate .strict vs ns = .ok ns' ∧
      ∀ dests, validate (.lenient dests) vs ns = .ok ns') ∨
      ∃ e, FirstFailure e vs ns ∧ validate .strict vs ns = .error e := by
  induction vs generalizing ns with
  | nil => exact .inl ⟨ns, rfl, fun _ => rfl⟩
  | cons v vs ih =>
    simp only [validate]
    cases happly : v.apply ns with
    | ok mid =>
      obtain ⟨ns', hstrict, hlenient⟩ | ⟨e, hfirst, hstrict⟩ := ih mid
      · exact .inl ⟨ns', hstrict, hlenient⟩
      · exact .inr ⟨e, .later happly hfirst, hstrict⟩
    | error e => exact .inr ⟨e, .here happly, if_pos (Mode.aborts_strict e)⟩

end TokenParser

end TokenGrammar
