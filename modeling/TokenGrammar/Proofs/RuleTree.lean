import TokenGrammar.Rule

/-!
# Trees of rules

A rule with everything below it is a finite tree, in which one rule may stand in several places.
What holds of every rule of a tree is stated by `Rule.Each`, and is decided rule by rule.

* `Rule.Avoids`: no rule of the tree opens savepoints for an owner;
* `Rule.Apart`: no rule of the tree opens savepoints for the owner of a rule above it. A rule is
  made after the rules below it and is never changed, so it is not among them;
* `Rule.Library`: the tree has no step of its own making, and its handlers are of a kind.
-/

namespace TokenGrammar

/-- Whether enough of the leading tokens are accepted as values. -/
def Collector.enough (collector : Collector) (tokens : List String) : Bool :=
  collector.bounds.least ≤ (collector.gather 0 tokens).length

/-- A collector keeps what it consumed if the values were enough. -/
theorem Collector.collect_eq (collector : Collector) :
    collector.collect = do
      let handle ← State.save (.rule collector.id)
      let tokens := (← get).tokens.remaining
      modify (consume (collector.gather 0 tokens).length)
      if collector.enough tokens then
        State.dismiss handle
        return some (collector.stored (collector.gather 0 tokens))
      else
        State.restore handle
        return none := by
  rw [collect]
  refine congrArg _ (funext fun handle => congrArg _ (funext fun st => ?_))
  show (modify _ >>= _) = modify _ >>= _
  refine congrArg _ (funext fun _ => ?_)
  by_cases h : (collector.gather 0 st.tokens.remaining).length < collector.bounds.least
  · have he : collector.enough st.tokens.remaining = false := by simpa [enough] using h
    rw [if_pos h, he]
    rfl
  · have he : collector.enough st.tokens.remaining = true := by simpa [enough] using h
    rw [if_neg h, he]
    rfl

namespace Rule

/-- More rules are run where the rules before them match. -/
theorem runAll_append (rules more : List Rule) :
    runAll (rules ++ more) = do if ← runAll rules then runAll more else return false := by
  induction rules with
  | nil => rw [runAll, pure_bind]; rfl
  | cons rule rules ih =>
    rw [List.cons_append, runAll, runAll, ih, bind_assoc]
    refine congrArg _ (funext fun matched => ?_)
    cases matched <;> simp

/-- More rules are run where none of the rules before them matches. -/
theorem runAny_append (owner : Owner) (rules more : List Rule) :
    runAny owner (rules ++ more) =
      (do if ← runAny owner rules then return true else runAny owner more) := by
  induction rules with
  | nil => rw [runAny, pure_bind]; rfl
  | cons rule rules ih =>
    rw [List.cons_append, runAny, runAny, ih, bind_assoc]
    refine congrArg _ (funext fun matched => ?_)
    cases matched <;> simp

/-- The rules directly below a rule. -/
def subrules : Rule → List Rule
  | .not _ rule | .capture _ _ rule _ _ => [rule]
  | .all _ rules | .any _ rules => rules
  | _ => []

/-- The owner of the savepoints that a rule opens by itself. -/
def owner? : Rule → Option Owner
  | .not id _ | .all id _ | .any id _ | .capture id _ _ _ _ => some (.rule id)
  | .collect collector _ => some (.rule collector.id)
  | _ => none

/-- What holds of a rule and of every rule below it. -/
inductive Each (p : Rule → Prop) : Rule → Prop where
  | intro {rule : Rule} (root : p rule) (subs : ∀ r ∈ rule.subrules, Each p r) : Each p rule

namespace Each

variable {p q : Rule → Prop} {rule : Rule}

theorem root (h : Each p rule) : p rule := by
  cases h
  assumption

theorem subs (h : Each p rule) : ∀ r ∈ rule.subrules, Each p r := by
  cases h
  assumption

theorem mono (hpq : ∀ r, p r → q r) (h : Each p rule) : Each q rule := by
  induction h with
  | intro root _ ih => exact .intro (hpq _ root) ih

theorem and (hp : Each p rule) (hq : Each q rule) : Each (fun r => p r ∧ q r) rule := by
  induction hp with
  | intro root _ ih => exact .intro ⟨root, hq.root⟩ fun r hr => ih r hr (hq.subs r hr)

/-- Each of several facts that hold of every rule of a tree. -/
theorem forall_intro {α : Sort _} {P : α → Rule → Prop} (h : Each p rule)
    (hP : ∀ a, Each (P a) rule) : Each (fun r => ∀ a, P a r) rule := by
  induction h with
  | intro root _ ih =>
    exact .intro (fun a => (hP a).root) fun r hr => ih r hr fun a => (hP a).subs r hr

end Each

theorem each_iff {p : Rule → Prop} {rule : Rule} :
    rule.Each p ↔ p rule ∧ ∀ r ∈ rule.subrules, r.Each p :=
  ⟨fun h => ⟨h.root, h.subs⟩, fun h => .intro h.1 h.2⟩

section Each

variable {p : Rule → Prop}

theorem each_iff_of_subrules {rule : Rule} (h : rule.subrules = []) : rule.Each p ↔ p rule := by
  rw [each_iff, h]
  simp

@[simp]
theorem each_leaf :
    (∀ n, (skip n).Each p ↔ p (skip n)) ∧ (∀ q, (check q).Each p ↔ p (check q)) ∧
    (∀ words fold, (isIn words fold).Each p ↔ p (isIn words fold)) ∧
    (isEmpty.Each p ↔ p isEmpty) ∧ (∀ f, (replace f).Each p ↔ p (replace f)) ∧
    (∀ ps fold, (removePrefix ps fold).Each p ↔ p (removePrefix ps fold)) ∧
    (∀ id most, (limit id most).Each p ↔ p (limit id most)) ∧
    (∀ c h, (collect c h).Each p ↔ p (collect c h)) ∧
    ∀ step, (custom step).Each p ↔ p (custom step) := by
  refine ⟨?_, ?_, ?_, ?_, ?_, ?_, ?_, ?_, ?_⟩ <;> intros <;> exact each_iff_of_subrules rfl

@[simp]
theorem each_not (id : Nat) (rule : Rule) :
    (Rule.not id rule).Each p ↔ p (.not id rule) ∧ rule.Each p := by
  rw [each_iff]
  simp [subrules]

@[simp]
theorem each_capture (id : Nat) (dests : List String) (rule : Rule) (format : Option RawFormat)
    (handler : Handler) :
    (Rule.capture id dests rule format handler).Each p ↔
      p (.capture id dests rule format handler) ∧ rule.Each p := by
  rw [each_iff]
  simp [subrules]

@[simp]
theorem each_all (id : Nat) (rules : List Rule) :
    (Rule.all id rules).Each p ↔ p (.all id rules) ∧ ∀ r ∈ rules, r.Each p :=
  each_iff

@[simp]
theorem each_any (id : Nat) (rules : List Rule) :
    (Rule.any id rules).Each p ↔ p (.any id rules) ∧ ∀ r ∈ rules, r.Each p :=
  each_iff

mutual

/-- What can be decided of every rule can be decided of a tree. -/
def decideEach (p : Rule → Prop) [DecidablePred p] : (rule : Rule) → Decidable (rule.Each p)
  | .not id rule =>
    have := decideEach p rule
    decidable_of_iff _ (each_not id rule).symm
  | .capture id dests rule format handler =>
    have := decideEach p rule
    decidable_of_iff _ (each_capture id dests rule format handler).symm
  | .all id rules =>
    have := decideEachList p rules
    decidable_of_iff _ (each_all id rules).symm
  | .any id rules =>
    have := decideEachList p rules
    decidable_of_iff _ (each_any id rules).symm
  | .skip _ | .check _ | .isIn _ _ | .isEmpty | .replace _ | .removePrefix _ _ | .limit _ _
  | .collect _ _ | .custom _ => decidable_of_iff _ (each_iff_of_subrules rfl).symm

/-- What can be decided of every rule can be decided of trees. -/
def decideEachList (p : Rule → Prop) [DecidablePred p] :
    (rules : List Rule) → Decidable (∀ r ∈ rules, r.Each p)
  | [] => isTrue fun _ h => nomatch h
  | rule :: rules =>
    have := decideEach p rule
    have := decideEachList p rules
    decidable_of_iff _ List.forall_mem_cons.symm

end

instance [DecidablePred p] (rule : Rule) : Decidable (rule.Each p) := decideEach p rule

end Each

/-- No rule of the tree opens savepoints for the owner. -/
def Avoids (rule : Rule) (owner : Owner) : Prop := rule.Each (·.owner? ≠ some owner)

/-- No rule of the tree opens savepoints for the owner of a rule above it. -/
def Apart (rule : Rule) : Prop :=
  rule.Each fun r => ∀ owner, r.owner? = some owner → ∀ q ∈ r.subrules, q.Avoids owner

/-- A rule that is not of the user's making, with a handler of a kind. -/
def OfLibrary (ok : Handler → Prop) : Rule → Prop
  | .custom _ => False
  | .collect _ handler | .capture _ _ _ _ handler => ok handler
  | _ => True

/-- A tree of rules that are not of the user's making, with handlers of a kind. -/
def Library (ok : Handler → Prop) (rule : Rule) : Prop := rule.Each (OfLibrary ok)

theorem Avoids.subs {rule : Rule} {owner : Owner} (h : rule.Avoids owner) :
    ∀ r ∈ rule.subrules, r.Avoids owner := Each.subs h

theorem Apart.subs {rule : Rule} (h : rule.Apart) : ∀ r ∈ rule.subrules, r.Apart := Each.subs h

theorem Library.subs {ok : Handler → Prop} {rule : Rule} (h : rule.Library ok) :
    ∀ r ∈ rule.subrules, r.Library ok := Each.subs h

theorem Library.of_handlers {ok ok' : Handler → Prop} (hok : ∀ handler, ok handler → ok' handler)
    {rule : Rule} (h : rule.Library ok) : rule.Library ok' := by
  refine Each.mono (fun r hr => ?_) h
  cases r with
  | custom step => exact hr.elim
  | collect collector handler => exact hok handler hr
  | capture id dests rule format handler => exact hok handler hr
  | _ => trivial

/-- The owner of a rule is free for the rules below it, and what is free for the rule is free for
them and another owner. -/
theorem Apart.scope {rule : Rule} {owner : Owner} (h : rule.Apart)
    (ho : rule.owner? = some owner) :
    (∀ r ∈ rule.subrules, r.Avoids owner) ∧
      ∀ o, rule.Avoids o → (∀ r ∈ rule.subrules, r.Avoids o) ∧ o ≠ owner := by
  refine ⟨Each.root h owner ho, fun o hfree => ⟨hfree.subs, ?_⟩⟩
  rintro rfl
  exact Each.root hfree ho

end Rule

end TokenGrammar
