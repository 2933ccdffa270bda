import TokenGrammar.Proofs.Agreement
import TokenGrammar.Proofs.OrderedChoice

/-!
# Blocks of tokens

A row of tokens that a round consumes as a whole, whatever stands behind it, and from which it
updates the attributes and the kept values. Tokens that are such blocks side by side are cut at the
ends of the blocks, and what a strict parse makes of them is the row of the updates.

* `Rule.Does`, `TokenParser.Does`: what a rule, and a round, does with a block;
* `Rule.FirstDoes`: what the first rule that matches does, by recursion on the rules;
* `TokenParser.matched_blocks`: a round for each block, by induction on the blocks;
* `TokenParser.parseStrict_blocks`: a strict parse in terms of the updates.
-/

namespace TokenGrammar

/-! ## Memories -/

/-- A view without its tokens. -/
@[ext]
structure Memory where
  attributes : Namespace
  scratch : Scratch

/-- What is updated besides the tokens. -/
def View.memory (v : View) : Memory := ⟨v.attributes, v.scratch⟩

namespace Memory

/-- The view in which tokens are left. -/
def before (m : Memory) (tokens : List String) : View := ⟨tokens, m.attributes, m.scratch⟩

@[simp]
theorem memory_before (m : Memory) (tokens : List String) : (m.before tokens).memory = m := rfl

@[simp]
theorem tokens_before (m : Memory) (tokens : List String) : (m.before tokens).tokens = tokens := rfl

theorem before_memory {v : View} {tokens : List String} (h : v.tokens = tokens) :
    v.memory.before tokens = v := View.ext h.symm rfl rfl

end Memory

/-! ## Rules -/

namespace Rule

variable {rule : Rule} {rules : List Rule} {tokens : List String}
  {update updates : Memory → Option Memory}

/-- In front of any other tokens, the rule consumes these and updates what is kept. It does not
match where the update is not defined. -/
def Does (rule : Rule) (tokens : List String) (update : Memory → Option Memory) : Prop :=
  ∀ (c : Content) (rest : List String), c.tokens.Valid → c.view.tokens = tokens ++ rest →
    rule.run.Yields rule.Avoids c ((update c.view.memory).map (·.before rest))

/-- What a rule does can be read off its meaning. -/
theorem does_of_denote (h : rule.Each Meaningful) (hapart : rule.Apart)
    (hden : ∀ v rest, v.tokens = tokens ++ rest →
      rule.denote v = (update v.memory).map (·.before rest)) : rule.Does tokens update := by
  intro c rest hv hc
  rw [← hden c.view rest hc]
  exact h.yields hapart hv

/-- In front of any other tokens, the first of the rules that matches consumes these and updates
what is kept. None matches where the update is not defined. -/
def FirstDoes (rules : List Rule) (tokens : List String) (update : Memory → Option Memory) : Prop :=
  ∀ (c : Content) (rest : List String), c.tokens.Valid → c.view.tokens = tokens ++ rest →
    match update c.view.memory with
    | none => firstMatch rules (c.under []) = none
    | some m => ∃ d : Content, firstMatch rules (c.under []) = some (d.under []) ∧
        d.view = m.before rest ∧ d.tokens.Valid

theorem FirstDoes.nil : FirstDoes [] tokens fun _ => none := fun _ _ _ _ => rfl

theorem FirstDoes.cons (h : rule.Does tokens update) (hrest : FirstDoes rules tokens updates) :
    FirstDoes (rule :: rules) tokens fun m => (update m).or (updates m) := by
  intro c rest hv hc
  have hrule := h c rest hv hc
  have hrules := hrest c rest hv hc
  simp only [firstMatch, List.findSome?_cons] at hrules ⊢
  cases hupdate : update c.view.memory with
  | none =>
    rw [hupdate] at hrule
    obtain ⟨f, -, hrun⟩ := hrule
    have halone : rule.alone (c.under []) = none := by
      rw [alone, hrun [] (List.forall_mem_nil _)]
    rw [halone, Option.none_or]
    exact hrules
  | some m =>
    rw [hupdate] at hrule
    obtain ⟨d, ⟨f, -, hrun⟩, hview, hd⟩ := hrule
    have halone : rule.alone (c.under []) = some (d.under []) := by
      rw [alone, hrun [] (List.forall_mem_nil _)]
      rfl
    rw [halone, Option.some_or]
    exact ⟨d, rfl, hview, hd⟩

/-- What holds of the updates of all the rules, and of the first of two updates that is defined,
holds of what the row does. -/
theorem exists_firstDoes {Q : (Memory → Option Memory) → Prop} (hnone : Q fun _ => none)
    (hor : ∀ update updates, Q update → Q updates → Q fun m => (update m).or (updates m))
    (h : ∀ r ∈ rules, ∃ update, r.Does tokens update ∧ Q update) :
    ∃ update, FirstDoes rules tokens update ∧ Q update := by
  induction rules with
  | nil => exact ⟨_, .nil, hnone⟩
  | cons rule rules ih =>
    obtain ⟨hrule, hrules⟩ := List.forall_mem_cons.mp h
    obtain ⟨update, hdoes, hupdate⟩ := hrule
    obtain ⟨updates, hfirst, hupdates⟩ := ih hrules
    exact ⟨_, .cons hdoes hfirst, hor _ _ hupdate hupdates⟩

theorem firstDoes_none (h : ∀ r ∈ rules, r.Does tokens fun _ => none) :
    FirstDoes rules tokens fun _ => none := by
  obtain ⟨_, hfirst, rfl⟩ := exists_firstDoes (Q := fun update => update = fun _ => none) rfl
    (fun _ _ hupdate hupdates => by rw [hupdate, hupdates]; rfl) fun r hr => ⟨_, h r hr, rfl⟩
  exact hfirst

/-- The one rule that has to do with the tokens is the first that matches. -/
theorem firstDoes_of_getElem? {i : Nat} {rule : Rule} {change : Memory → Memory}
    (hrule : rules[i]? = some rule) (h : rule.Does tokens fun m => some (change m))
    (hothers : ∀ j r, j ≠ i → rules[j]? = some r → r.Does tokens fun _ => none) :
    FirstDoes rules tokens fun m => some (change m) := by
  induction rules generalizing i with
  | nil => exact nomatch hrule
  | cons first rules ih =>
    cases i with
    | zero =>
      obtain rfl := Option.some.inj hrule
      have hnone : FirstDoes rules tokens fun _ => none := by
        refine firstDoes_none fun r hr => ?_
        obtain ⟨j, hj⟩ := List.mem_iff_getElem?.mp hr
        exact hothers (j + 1) r (Nat.succ_ne_zero j) hj
      exact .cons h hnone
    | succ i =>
      have hfirst := hothers 0 first (Nat.succ_ne_zero i).symm rfl
      have hrest := ih hrule fun j r hj hr => hothers (j + 1) r (by omega) hr
      exact .cons hfirst hrest

end Rule

/-! ## Rounds -/

namespace TokenParser

variable {p : TokenParser}

/-- In front of any other tokens, a round consumes these and updates what is kept. No rule matches
where the update is not defined. -/
def Does (p : TokenParser) (tokens : List String) (update : Memory → Option Memory) : Prop :=
  ∀ (c : Content) (rest : List String), c.tokens.Valid → c.view.tokens = tokens ++ rest →
    match update c.view.memory with
    | none => p.advance (c.under []) = .ok false (c.under [])
    | some m => ∃ d : Content, p.advance (c.under []) = .ok true (d.under []) ∧
        d.view = m.before rest ∧ d.tokens.Valid

/-- A round does what the first rule does that matches. -/
theorem Sound.does (h : p.Sound) {tokens : List String} (htokens : tokens ≠ [])
    {update : Memory → Option Memory} (hfirst : Rule.FirstDoes p.rules tokens update) :
    p.Does tokens update := by
  intro c rest hv hc
  have hround := hfirst c rest hv hc
  cases hupdate : update c.view.memory with
  | none =>
    rw [hupdate] at hround
    refine h.advance_of_stuck rfl fun mid hmid => ?_
    exact nomatch hround.symm.trans hmid
  | some m =>
    rw [hupdate] at hround
    obtain ⟨d, hmatch, hview, hd⟩ := hround
    have hlt : d.tokens.size < c.tokens.size := by
      have hleft : d.tokens.remaining = rest := congrArg View.tokens hview
      have hall : c.tokens.remaining = tokens ++ rest := hc
      have hpos := List.length_pos_of_ne_nil htokens
      rw [← TokenBuffer.length_remaining, ← TokenBuffer.length_remaining, hleft, hall,
        List.length_append]
      omega
    exact ⟨d, (h.advance_of_first rfl hmatch hlt).1, hview, hd⟩

variable {β : Type} {blocks : List β} {tokens : β → List String}
  {update : β → Memory → Option Memory}

/-- Tokens that are blocks side by side are consumed block by block. Where the updates end before
the blocks do, no rule matches. -/
theorem matched_blocks (hdoes : ∀ b ∈ blocks, tokens b ≠ [] ∧ p.Does (tokens b) (update b))
    {c : Content} (hv : c.tokens.Valid) (hc : c.view.tokens = blocks.flatMap tokens) :
    match blocks.foldlM (fun m b => update b m) c.view.memory with
    | none => ∀ st, ¬ p.Matched (c.under []) st
    | some m => ∃ d : Content, p.Matched (c.under []) (d.under []) ∧ d.view = m.before [] := by
  induction blocks generalizing c with
  | nil =>
    have hempty : c.tokens.isEmpty = true := (TokenBuffer.isEmpty_iff _).mpr hc
    exact ⟨c, .done hempty, (Memory.before_memory hc).symm⟩
  | cons b blocks ih =>
    obtain ⟨⟨hne, hb⟩, hblocks⟩ := List.forall_mem_cons.mp hdoes
    rw [List.flatMap_cons] at hc
    have hround := hb c _ hv hc
    have hleft : c.tokens.isEmpty = false := by
      refine Bool.eq_false_iff.mpr fun hempty => hne ?_
      have hnil : c.view.tokens = [] := (TokenBuffer.isEmpty_iff _).mp hempty
      exact (List.append_eq_nil_iff.mp (hc.symm.trans hnil)).1
    rw [List.foldlM_cons]
    cases hupdate : update b c.view.memory with
    | none =>
      rw [hupdate] at hround
      rintro st (hempty | ⟨-, hadv, -⟩)
      · exact nomatch hleft.symm.trans hempty
      · exact nomatch hround.symm.trans hadv
    | some m =>
      rw [hupdate] at hround
      obtain ⟨d, hadv, hview, hd⟩ := hround
      have hrest := ih hblocks hd (congrArg View.tokens hview)
      rw [hview, Memory.memory_before] at hrest
      rw [Option.bind_eq_bind, Option.bind_some]
      cases hall : blocks.foldlM (fun m b => update b m) m with
      | none =>
        rw [hall] at hrest
        rintro st (hempty | ⟨-, hfirst, hthen⟩)
        · exact nomatch hleft.symm.trans hempty
        · obtain ⟨-, rfl⟩ := EStateM.Result.ok.inj (hadv.symm.trans hfirst)
          exact hrest st hthen
      | some m' =>
        rw [hall] at hrest
        obtain ⟨e, hmatched, hend⟩ := hrest
        exact ⟨e, .round hleft hadv hmatched, hend⟩

/-- A strict parse of blocks ends well if all the updates are defined, and no validator fails. -/
theorem parseStrict_blocks (hord : ∀ r ∈ p.rules, r.Orderly)
    (hdoes : ∀ b ∈ blocks, tokens b ≠ [] ∧ p.Does (tokens b) (update b))
    (hsize : (blocks.flatMap tokens).length < UInt64.size) {seed : Option Namespace}
    {ns : Namespace} :
    p.parseStrict (blocks.flatMap tokens) seed = .ok ns ↔
      ∃ m, blocks.foldlM (fun m b => update b m) ⟨seed.getD .empty, .empty⟩ = some m ∧
        validate .strict p.validators m.attributes = .ok ns := by
  have hrounds := matched_blocks hdoes
    (c := (State.start (blocks.flatMap tokens) seed).content) (.ofTokens hsize) rfl
  have hmemory : (State.start (blocks.flatMap tokens) seed).content.view.memory =
      ⟨seed.getD .empty, .empty⟩ := rfl
  rw [hmemory] at hrounds
  cases hall : blocks.foldlM (fun m b => update b m) ⟨seed.getD .empty, .empty⟩ with
  | none =>
    rw [hall] at hrounds
    rw [parseStrict_eq_ok hord]
    constructor
    · rintro ⟨st, hmatched, -⟩
      exact absurd hmatched (hrounds st)
    · rintro ⟨m, hnone, -⟩
      exact nomatch hnone
  | some m =>
    rw [hall] at hrounds
    obtain ⟨d, hmatched, hend⟩ := hrounds
    have hattributes : d.attributes = m.attributes := congrArg View.attributes hend
    have hparse : p.parseStrict (blocks.flatMap tokens) seed =
        validate .strict p.validators d.attributes := Matched.parseStrict_eq hmatched rfl
    rw [hparse, hattributes]
    simp

end TokenParser

end TokenGrammar
