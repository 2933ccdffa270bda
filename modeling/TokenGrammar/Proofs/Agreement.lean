import TokenGrammar.Proofs.Dispatch
import TokenGrammar.Proofs.Validation

/-!
# Agreement of the modes

A strict and a lenient parse of the same tokens do the same, round by round, until a token is found
that no rule matches. There the strict one ends, and the lenient one goes on. Where there is no such
token, they can differ in what they make of failed validators only.

All of this holds of any rules that release the savepoints that they open, and no others.

* `TokenParser.orderly_advance`: a round of such rules;
* `TokenParser.LoopsAgree`, `TokenParser.agree_consumeAll`: how the two loops end, by induction on
  the rounds;
* `TokenParser.modes_agree`: how the two parses end.
-/

namespace TokenGrammar

namespace TokenParser

variable {p : TokenParser} {st mid : State}

/-- A round that matches consumes tokens. -/
theorem lt_of_advance (hadv : p.advance st = .ok true mid) :
    mid.tokens.size < st.tokens.size := by
  rw [advance_eq_attempt] at hadv
  obtain ⟨inner, -, hstep, hrelease⟩ := State.attempt_eq_ok.mp hadv
  obtain ⟨chosen, after, -, hstep⟩ := Step.bind_eq_ok.mp hstep
  rw [Step.get_bind] at hstep
  obtain ⟨hfound, rfl⟩ := Step.pure_eq_ok.mp hstep
  have hlt : inner.tokens.size < st.tokens.size :=
    of_decide_eq_true (Bool.and_eq_true_iff.mp hfound.symm).2
  obtain ⟨sp, hpop⟩ := State.dismiss_eq_ok.mp hrelease
  have htokens : mid.tokens = inner.tokens :=
    congrArg Content.tokens (State.pop_eq_ok.mp hpop).2.2
  rwa [htokens]

/-- A round that matches consumes tokens, and any other round changes nothing. -/
theorem orderly_advance (h : ∀ r ∈ p.rules, r.Orderly) (hst : st.savepoints = []) {matched : Bool}
    (hadv : p.advance st = .ok matched mid) :
    mid.savepoints = [] ∧ (matched = true → mid.tokens.size < st.tokens.size) ∧
      (matched = false → mid = st) := by
  have hlt : matched = true → mid.tokens.size < st.tokens.size := fun hm =>
    lt_of_advance (hm ▸ hadv)
  rw [advance_eq_attempt] at hadv
  have hprogress : (p.progress st.tokens.size).Orderly := by
    intro before found after hrun
    rw [progress, Step.bind_eq_ok] at hrun
    obtain ⟨chosen, inner, hchoice, hrun⟩ := hrun
    rw [Step.get_bind] at hrun
    obtain ⟨-, rfl⟩ := Step.pure_eq_ok.mp hrun
    exact (Rule.orderly_runAny h hchoice).1
  obtain ⟨hrun, hback⟩ := State.orderly_attempt hprogress hadv
  have hsps : mid.savepoints = [] := by
    obtain ⟨f, hf, -⟩ := hrun.records
    rw [hf, hst]
    rfl
  refine ⟨hsps, hlt, fun hfalse => ?_⟩
  rw [← State.under_content mid, ← State.under_content st, hback hfalse, hsps, hst]

/-! ## Loops -/

theorem consumeAll_of_isEmpty (h : st.tokens.isEmpty = true) (mode : Mode) (rounds : Nat) :
    p.consumeAll mode rounds st = .ok [] st := by
  cases rounds with
  | zero => rfl
  | succ rounds =>
    rw [consumeAll, Step.get_bind, h]
    rfl

theorem consumeAll_succ (left : st.tokens.isEmpty = false) (mode : Mode) (rounds : Nat) :
    p.consumeAll mode (rounds + 1) st =
      match p.advance st with
      | .error e mid => .error e mid
      | .ok true mid => p.consumeAll mode rounds mid
      | .ok false mid => (do return (← skip mode) ++ (← p.consumeAll mode rounds)) mid := by
  rw [consumeAll, Step.get_bind, left]
  simp only [Bool.false_eq_true, if_false]
  rw [Step.bind_apply]
  cases p.advance st with
  | error e mid => rfl
  | ok matched mid => cases matched <;> rfl

/-- Where no rule matches, a strict loop gives up on all tokens that are left. -/
theorem consumeAll_strict_of_stuck (left : st.tokens.isEmpty = false)
    (stuck : p.advance st = .ok false st) (rounds : Nat) :
    ∃ last, p.consumeAll .strict (rounds + 1) st = .ok st.tokens.remaining last := by
  obtain ⟨last, hskip, -, -⟩ := skip_eq .strict left
  rw [take_skipCount_strict] at hskip
  have hlast : last.tokens.isEmpty = true :=
    (TokenBuffer.isEmpty_iff _).mpr (by simpa using remaining_of_skip hskip)
  refine ⟨last, ?_⟩
  rw [consumeAll_succ left, stuck]
  show (skip .strict >>= _) st = _
  rw [Step.bind_apply, hskip]
  show (p.consumeAll .strict rounds >>= _) last = _
  rw [Step.bind_apply, consumeAll_of_isEmpty hlast]
  exact congrArg (EStateM.Result.ok · last) (List.append_nil _)

/-- Rounds that all match, until no token is left. -/
inductive Matched (p : TokenParser) : State → State → Prop where
  | done {st : State} (none_left : st.tokens.isEmpty = true) : Matched p st st
  | round {st mid st' : State} (left : st.tokens.isEmpty = false)
      (advances : p.advance st = .ok true mid) (rest : Matched p mid st') : Matched p st st'

/-- As many rounds as tokens are enough. -/
theorem Matched.consumeAll_eq {st' : State} (h : p.Matched st st') (mode : Mode) {rounds : Nat}
    (hrounds : st.tokens.size ≤ rounds) : p.consumeAll mode rounds st = .ok [] st' := by
  induction h generalizing rounds with
  | done none_left => exact consumeAll_of_isEmpty none_left mode rounds
  | @round st mid st' left advances _ ih =>
    have hlt := lt_of_advance advances
    cases rounds with
    | zero => omega
    | succ rounds =>
      rw [consumeAll_succ left, advances]
      exact ih (by omega)

/-- Rounds that all match leave no token and, if they are orderly, no savepoint. -/
theorem Matched.savepoints_eq (h : ∀ r ∈ p.rules, r.Orderly) {st' : State}
    (hrun : p.Matched st st') (hst : st.savepoints = []) : st'.savepoints = [] := by
  induction hrun with
  | done => exact hst
  | round _ advances _ ih => exact ih (orderly_advance h hst advances).1

theorem Matched.isEmpty {st' : State} (h : p.Matched st st') : st'.tokens.isEmpty = true := by
  induction h with
  | done none_left => exact none_left
  | round _ _ _ ih => exact ih

/-- A strict loop that gives up on no token has rounds that all match. -/
theorem matched_of_consumeAll (h : ∀ r ∈ p.rules, r.Orderly) {rounds : Nat} {st' : State}
    (hst : st.savepoints = []) (hrounds : st.tokens.size ≤ rounds)
    (hrun : p.consumeAll .strict rounds st = .ok [] st') : p.Matched st st' := by
  induction rounds generalizing st with
  | zero =>
    cases hrun
    exact .done (by simpa [TokenBuffer.isEmpty] using hrounds)
  | succ rounds ih =>
    cases left : st.tokens.isEmpty with
    | true =>
      rw [consumeAll_of_isEmpty left] at hrun
      cases hrun
      exact .done left
    | false =>
      cases hadv : p.advance st with
      | error e mid =>
        rw [consumeAll_succ left, hadv] at hrun
        cases hrun
      | ok matched mid =>
        obtain ⟨hsps, hlt, hback⟩ := orderly_advance h hst hadv
        cases matched with
        | true =>
          rw [consumeAll_succ left, hadv] at hrun
          have hle := hlt rfl
          exact .round left hadv (ih hsps (by omega) hrun)
        | false =>
          obtain rfl := hback rfl
          obtain ⟨last, hstrict⟩ := consumeAll_strict_of_stuck left hadv rounds
          obtain ⟨token, rest, htokens⟩ := exists_next left
          rw [hstrict, htokens] at hrun
          cases hrun

/-- Where no rule matches, a lenient loop gives up on the next token first. -/
theorem head?_of_stuck (left : st.tokens.isEmpty = false) (stuck : p.advance st = .ok false st)
    {dests unparsed : List String} {rounds : Nat} {st' : State}
    (hrun : p.consumeAll (.lenient dests) (rounds + 1) st = .ok unparsed st') :
    unparsed.head? = st.tokens.remaining.head? := by
  obtain ⟨token, rest, htokens⟩ := exists_next left
  obtain ⟨next, hskip, -, -⟩ := skip_eq (.lenient dests) left
  rw [take_skipCount_lenient dests htokens] at hskip
  rw [consumeAll_succ left, stuck] at hrun
  obtain ⟨skipped, after, hskipped, hrun⟩ := Step.bind_eq_ok.mp hrun
  obtain ⟨others, final, -, hrun⟩ := Step.bind_eq_ok.mp hrun
  obtain ⟨rfl, -⟩ := Step.pure_eq_ok.mp hrun
  obtain ⟨rfl, -⟩ := EStateM.Result.ok.inj (hskip.symm.trans hskipped)
  rw [htokens]
  rfl

/-- How a strict and a lenient loop over the same tokens end. -/
inductive LoopsAgree : EStateM.Result Error State (List String) →
    EStateM.Result Error State (List String) → Prop where
  /-- A rule fails in both. -/
  | failed (e : Error) (st : State) : LoopsAgree (.error e st) (.error e st)
  /-- All tokens are matched in both. -/
  | matched (st : State) : LoopsAgree (.ok [] st) (.ok [] st)
  /-- The strict one stops at a token. The lenient one skips it, and may end in any way. -/
  | stopped {left : List String} {st : State} {lenient : EStateM.Result Error State (List String)}
      (nonempty : left ≠ [])
      (skips : ∀ unparsed st', lenient = .ok unparsed st' → unparsed.head? = left.head?) :
      LoopsAgree (.ok left st) lenient

/-- From a position where no savepoint is open, the loops of the two modes agree. -/
theorem agree_consumeAll (h : ∀ r ∈ p.rules, r.Orderly) (dests : List String) {rounds : Nat}
    (hst : st.savepoints = []) (hrounds : st.tokens.size ≤ rounds) :
    LoopsAgree (p.consumeAll .strict rounds st) (p.consumeAll (.lenient dests) rounds st) := by
  induction rounds generalizing st with
  | zero => exact .matched st
  | succ rounds ih =>
    cases left : st.tokens.isEmpty with
    | true =>
      rw [consumeAll_of_isEmpty left, consumeAll_of_isEmpty left]
      exact .matched st
    | false =>
      cases hadv : p.advance st with
      | error e mid =>
        rw [consumeAll_succ left, consumeAll_succ left, hadv]
        exact .failed e mid
      | ok matched mid =>
        obtain ⟨hsps, hlt, hback⟩ := orderly_advance h hst hadv
        cases matched with
        | true =>
          rw [consumeAll_succ left, consumeAll_succ left, hadv]
          exact ih hsps (Nat.le_of_lt_succ (Nat.lt_of_lt_of_le (hlt rfl) hrounds))
        | false =>
          obtain rfl := hback rfl
          obtain ⟨last, hstrict⟩ := consumeAll_strict_of_stuck left hadv rounds
          obtain ⟨token, rest, htokens⟩ := exists_next left
          rw [hstrict]
          exact .stopped (htokens ▸ List.cons_ne_nil token rest)
            fun unparsed st' hrun => head?_of_stuck left hadv hrun

/-! ## Parses -/

theorem attributes_of_finish {ns : Namespace} (h : st.finish = .ok ns) : ns = st.attributes := by
  rw [State.finish] at h
  split at h
  · cases h
  · split at h
    · cases h
    · exact (Except.ok.inj h).symm

/-- What is left of a strict parse whose rounds all match are the validators. -/
theorem Matched.parseStrict_eq {tokens : List String} {seed : Option Namespace}
    (h : p.Matched (.start tokens seed) st) (hsps : st.savepoints = []) :
    p.parseStrict tokens seed = validate .strict p.validators st.attributes := by
  have hloop := h.consumeAll_eq .strict (Nat.le_of_eq (TokenBuffer.size_ofTokens tokens))
  have hsize : st.tokens.size = 0 := by simpa [TokenBuffer.isEmpty] using h.isEmpty
  have hfinish : st.finish = .ok st.attributes := by simp [State.finish, hsps, hsize]
  rw [parseStrict, parse, hloop]
  simp only [ne_eq, not_true_eq_false, and_false, if_false, hfinish]
  show ((validate .strict p.validators st.attributes).map (·, [])).map (·.1) = _
  cases validate .strict p.validators st.attributes <;> rfl

/-- A strict parse ends well if all its rounds match, and no validator fails. -/
theorem parseStrict_eq_ok (h : ∀ r ∈ p.rules, r.Orderly) {tokens : List String}
    {seed : Option Namespace} {ns : Namespace} :
    p.parseStrict tokens seed = .ok ns ↔
      ∃ st, p.Matched (.start tokens seed) st ∧
        validate .strict p.validators st.attributes = .ok ns := by
  have hstart : (State.start tokens seed).savepoints = [] := rfl
  constructor
  · intro hparse
    cases hrun : p.consumeAll .strict tokens.length (.start tokens seed) with
    | error e st =>
      rw [parseStrict, parse, hrun] at hparse
      cases hparse
    | ok unparsed st =>
      cases unparsed with
      | cons token unparsed =>
        rw [parseStrict, parse, hrun] at hparse
        cases hparse
      | nil =>
        have hmatched := matched_of_consumeAll h hstart
          (Nat.le_of_eq (TokenBuffer.size_ofTokens tokens)) hrun
        refine ⟨st, hmatched, ?_⟩
        rwa [hmatched.parseStrict_eq (hmatched.savepoints_eq h hstart)] at hparse
  · rintro ⟨st, hmatched, hvalid⟩
    rwa [hmatched.parseStrict_eq (hmatched.savepoints_eq h hstart)]

/-- How a strict and a lenient parse of the same tokens end. -/
inductive ParsesAgree (p : TokenParser) (tokens : List String) (seed : Option Namespace) :
    Except Error Namespace → Except Error (Namespace × List String) → Prop where
  /-- A rule fails in both. -/
  | failed (e : Error) : ParsesAgree p tokens seed (.error e) (.error e)
  /-- All tokens are matched, and no validator fails. -/
  | passed (ns : Namespace) : ParsesAgree p tokens seed (.ok ns) (.ok (ns, []))
  /-- All tokens are matched, and a validator fails, which a lenient parse ignores. -/
  | invalid {e : Error} {st : State} (ns : Namespace)
      (matched : p.consumeAll .strict tokens.length (.start tokens seed) = .ok [] st)
      (fails : FirstFailure e p.validators st.attributes) :
      ParsesAgree p tokens seed (.error e) (.ok (ns, []))
  /-- The strict one stops at a token, which the lenient one skips. -/
  | stopped {left : List String} {lenient : Except Error (Namespace × List String)}
      (nonempty : left ≠ [])
      (skips : ∀ ns unparsed, lenient = .ok (ns, unparsed) → unparsed.head? = left.head?) :
      ParsesAgree p tokens seed (.error (.unparsedTokens left)) lenient

theorem agree_parse (h : ∀ r ∈ p.rules, r.Orderly) (tokens : List String)
    (seed : Option Namespace) (dests : List String) :
    ParsesAgree p tokens seed (p.parseStrict tokens seed) (p.parseLenient tokens seed dests) := by
  have hstart : (State.start tokens seed).savepoints = [] := rfl
  have hloops := agree_consumeAll h dests hstart (Nat.le_of_eq (TokenBuffer.size_ofTokens tokens))
  rw [parseStrict, parseLenient, parse, parse]
  generalize hstrict : p.consumeAll .strict tokens.length (.start tokens seed) = strict at hloops ⊢
  generalize p.consumeAll (.lenient dests) tokens.length (.start tokens seed) = lenient at hloops ⊢
  cases hloops with
  | failed e st => exact .failed e
  | matched st =>
    simp only [ne_eq, not_true_eq_false, and_false, if_false]
    cases hfinish : st.finish with
    | error e => exact .failed e
    | ok ns =>
      obtain rfl := attributes_of_finish hfinish
      show ParsesAgree p tokens seed
        (((validate .strict p.validators st.attributes).map (·, [])).map (·.1))
        ((validate (.lenient dests) p.validators st.attributes).map (·, []))
      obtain ⟨ns, hns, hlenient⟩ | ⟨e, hfirst, herror⟩ :=
        validate_strict_cases p.validators st.attributes
      · rw [hns, hlenient dests]
        exact .passed ns
      · obtain ⟨ns, hns⟩ := validate_lenient dests p.validators st.attributes
        rw [herror, hns]
        exact .invalid ns hstrict hfirst
  | @stopped left st lenient nonempty skips =>
    simp only [ne_eq, nonempty, not_false_eq_true, and_self, if_true]
    refine .stopped nonempty fun ns unparsed hrun => ?_
    cases lenient with
    | error e st => cases hrun
    | ok skipped st =>
      simp only [reduceCtorEq, false_and, if_false] at hrun
      obtain ⟨ns', -, hrun⟩ := Declaration.bind_eq_ok.mp hrun
      obtain ⟨ns'', -, hrun⟩ := Declaration.bind_eq_ok.mp hrun
      obtain ⟨-, rfl⟩ := Prod.mk.inj (Except.ok.inj hrun)
      exact skips skipped st rfl

/-- A strict parse that ends well gives what any lenient one gives, which has skipped no token. A
lenient parse that has skipped no token is one that ends well in strict mode, or with the first
validator that fails. One that has skipped tokens is one that stops in strict mode, at the first of
them. -/
theorem modes_agree (h : ∀ r ∈ p.rules, r.Orderly) (tokens : List String)
    (seed : Option Namespace) (dests : List String) :
    (∀ ns, p.parseStrict tokens seed = .ok ns → p.parseLenient tokens seed dests = .ok (ns, [])) ∧
      (∀ ns, p.parseLenient tokens seed dests = .ok (ns, []) →
        p.parseStrict tokens seed = .ok ns ∨
          ∃ e st, p.consumeAll .strict tokens.length (.start tokens seed) = .ok [] st ∧
            FirstFailure e p.validators st.attributes ∧ p.parseStrict tokens seed = .error e) ∧
      ∀ ns unparsed, p.parseLenient tokens seed dests = .ok (ns, unparsed) →
        (unparsed ≠ [] ↔ ∃ left, p.parseStrict tokens seed = .error (.unparsedTokens left)) ∧
          ∀ left, p.parseStrict tokens seed = .error (.unparsedTokens left) →
            left ≠ [] ∧ left.head? = unparsed.head? := by
  have hagree := agree_parse h tokens seed dests
  generalize p.parseStrict tokens seed = strict at hagree ⊢
  generalize p.parseLenient tokens seed dests = lenient at hagree ⊢
  cases hagree with
  | failed e =>
    refine ⟨?_, ?_, ?_⟩
    · rintro _ ⟨⟩
    · rintro _ ⟨⟩
    · rintro _ _ ⟨⟩
  | passed ns =>
    refine ⟨?_, ?_, ?_⟩
    · rintro _ ⟨⟩
      rfl
    · rintro _ ⟨⟩
      exact .inl rfl
    · rintro _ _ ⟨⟩
      refine ⟨⟨absurd rfl, ?_⟩, ?_⟩
      · rintro ⟨left, ⟨⟩⟩
      · rintro left ⟨⟩
  | invalid ns matched fails =>
    refine ⟨?_, ?_, ?_⟩
    · rintro _ ⟨⟩
    · rintro _ ⟨⟩
      exact .inr ⟨_, _, matched, fails, rfl⟩
    · have hvalidator := fails.ofValidator
      rintro _ _ ⟨⟩
      refine ⟨⟨absurd rfl, ?_⟩, ?_⟩
      · rintro ⟨left, ⟨⟩⟩
        exact hvalidator.elim
      · rintro left ⟨⟩
        exact hvalidator.elim
  | @stopped left lenient nonempty skips =>
    have hhead {unparsed : List String} {ns : Namespace} (hlenient : lenient = .ok (ns, unparsed)) :
        unparsed ≠ [] := by
      rintro rfl
      exact nonempty (List.head?_eq_none_iff.mp (skips ns [] hlenient).symm)
    refine ⟨?_, fun ns hlenient => absurd rfl (hhead hlenient), fun ns unparsed hlenient => ?_⟩
    · rintro _ ⟨⟩
    · refine ⟨⟨fun _ => ⟨left, rfl⟩, fun _ => hhead hlenient⟩, ?_⟩
      rintro _ ⟨⟩
      exact ⟨nonempty, (skips ns unparsed hlenient).symm⟩

/-- Takes a flag and notes that it was there, under a savepoint of its own. -/
def noted : Rule :=
  .custom <| State.attempt (.rule 1) do
    modify (·.set "x" (.bool true))
    if ← (Rule.oneOf ["-x"] false).run then (Rule.skip 1).run else return false

theorem orderly_noted : noted.Orderly := by
  intro st matched st' hrun
  rw [noted, Rule.run] at hrun
  refine (State.orderly_attempt ?_ hrun).1
  intro before found after hstep
  simp only [Step.bind_eq_ok, Step.modify_eq_ok] at hstep
  obtain ⟨_, _, rfl, flag, mid, hflag, hstep⟩ := hstep
  rw [Rule.oneOf, Rule.run] at hflag
  refine .set _ _ ((Rule.orderly_onNext _ _ _ _ hflag).trans ?_)
  cases flag with
  | true => exact Rule.orderly_skip 1 _ _ _ hstep
  | false =>
    obtain ⟨-, rfl⟩ := Step.pure_eq_ok.mp hstep
    exact .refl _

/-- A flag that is required. -/
def noting : TokenParser := ⟨[noted], [.require "x" none]⟩

/-- The flag by itself passes in both modes. Without it a strict parse fails, with the validator.
Before other tokens a strict parse stops where a lenient one skips. -/
theorem modes_agree_noting :
    (∃ ns, noting.parseStrict ["-x"] none = .ok ns ∧
      noting.parseLenient ["-x"] none ["rest"] = .ok (ns, [])) ∧
    (∃ ns e, noting.parseLenient [] none ["rest"] = .ok (ns, []) ∧
      noting.parseStrict [] none = .error e ∧ e.OfValidator) ∧
    ∃ left, noting.parseStrict ["-x", "a", "b"] none = .error (.unparsedTokens left) ∧
      left.head? = some "a" := by
  have horderly : ∀ r ∈ noting.rules, r.Orderly := List.forall_mem_singleton.mpr orderly_noted
  have hpass : noting.parseStrict ["-x"] none = .ok (.ofList [("x", .bool true)]) := by
    decide +kernel
  have hmissing : noting.parseLenient [] none ["rest"] = .ok (.empty, []) := by decide +kernel
  have hfail : noting.parseStrict [] none ≠ .ok .empty := by decide +kernel
  have hskip : (noting.parseLenient ["-x", "a", "b"] none ["rest"]).map (·.2) = .ok ["a", "b"] := by
    decide +kernel
  refine ⟨⟨_, hpass, (modes_agree horderly ["-x"] none ["rest"]).1 _ hpass⟩, ?_, ?_⟩
  · obtain hok | ⟨e, st, -, hfirst, herror⟩ :=
      (modes_agree horderly [] none ["rest"]).2.1 _ hmissing
    · exact absurd hok hfail
    · exact ⟨_, e, hmissing, herror, hfirst.ofValidator⟩
  · cases hlenient : noting.parseLenient ["-x", "a", "b"] none ["rest"] with
    | error e =>
      rw [hlenient] at hskip
      cases hskip
    | ok result =>
      rw [hlenient] at hskip
      obtain ⟨ns, unparsed⟩ := result
      obtain rfl : unparsed = ["a", "b"] := Except.ok.inj hskip
      obtain ⟨hiff, hheads⟩ := (modes_agree horderly _ none ["rest"]).2.2 ns _ hlenient
      obtain ⟨left, hleft⟩ := hiff.mp (List.cons_ne_nil _ _)
      exact ⟨left, hleft, (hheads left hleft).2⟩

end TokenParser

end TokenGrammar
