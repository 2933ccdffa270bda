import TokenGrammar.Proofs.Facade
import TokenGrammar.Proofs.Isolation
import TokenGrammar.Proofs.Rollback

/-!
# Dispatch

Which declared rule a parse takes at a position. The choice commits to the first rule that matches,
and only then it is asked whether a token was consumed. So a rule that matches without consuming
shadows the rules after it, and the position counts as one where no rule matches.

* `TokenParser.Position`: the states between the rounds of a parse;
* `TokenParser.Sound.advance_cases`: one round, in terms of the declared rules run alone;
* `TokenParser.Scan`, `TokenParser.Sound.scan`: a whole parse as the declared rules run alone make
  it, by induction on the rounds;
* `ArgumentParser.Built.dispatch`: both for all grammars of declared arguments. A parse always comes
  to an end of the tokens, and gives up on a token just where the first rule that matches, if any,
  consumes nothing.
-/

namespace TokenGrammar

namespace Rule

/-- A library rule opens savepoints for rules only. -/
theorem Library.avoids {ok : Handler → Prop} {rule : Rule} (h : rule.Library ok) {owner : Owner}
    (ho : ∀ id, owner ≠ .rule id) : rule.Avoids owner := by
  refine Each.mono (fun r _ howner => ?_) h
  cases r with
  | not id _ | all id _ | any id _ | capture id => exact ho id (Option.some.inj howner).symm
  | collect c _ => exact ho c.id (Option.some.inj howner).symm
  | _ => exact nomatch howner

end Rule

namespace TokenParser

/-- The rules of a parser are library rules, apart from the rules below them. -/
def Sound (p : TokenParser) : Prop := ∀ r ∈ p.rules, r.Library Handler.Local ∧ r.Apart

/-- Rules with built-in handlers are sound. -/
theorem sound_of_builtIn {p : TokenParser}
    (h : ∀ r ∈ p.rules, r.Library Handler.BuiltIn ∧ r.Apart) : p.Sound := by
  exact fun r hr =>
    ⟨(h r hr).1.of_handlers fun _ => Handler.local_of_builtIn, (h r hr).2⟩

/-- What one round runs under its savepoint: the choice, and the question whether a token was
consumed. -/
def progress (p : TokenParser) (before : Nat) : Step Bool := do
  let matched ← Rule.runAny .choice p.rules
  return matched && (← get).tokens.size < before

theorem advance_eq_attempt (p : TokenParser) (st : State) :
    p.advance st = State.attempt .driver (p.progress st.tokens.size) st := by
  simp only [advance, State.attempt, progress, Step.bind_apply, Step.get_apply]
  cases State.save .driver st with
  | error e mid => rfl
  | ok handle mid =>
    simp only
    cases Rule.runAny .choice p.rules mid with
    | error e after => rfl
    | ok matched after => rfl

variable {p : TokenParser}

/-- The choice of the loop, under the savepoint of the loop. -/
theorem Sound.acts_choice (h : p.Sound) (c : Content) :
    (Rule.firstMatch p.rules (c.under []) = none ∧
      (Rule.runAny .choice p.rules).Acts (· = .driver) c false c) ∨
      ∃ d, Rule.firstMatch p.rules (c.under []) = some (d.under []) ∧
        (Rule.runAny .choice p.rules).Acts (· = .driver) c true d := by
  have hrules : ∀ r ∈ p.rules, ∀ c,
      ∃ a d, r.run.Acts (fun o => ∀ q ∈ p.rules, q.Avoids o) c a d := by
    intro r hr c
    obtain ⟨a, d, hacts⟩ := (h r hr).1.acts (h r hr).2 c
    exact ⟨a, d, hacts.mono fun o ho => ho r hr⟩
  have hchoice : ∀ q ∈ p.rules, q.Avoids .choice := fun q hq => (h q hq).1.avoids nofun
  refine Rule.acts_runAny hrules hchoice ?_ c
  rintro _ rfl
  exact ⟨fun q hq => (h q hq).1.avoids nofun, nofun⟩

/-- One round, from what its choice does. -/
theorem advance_under {c d : Content} {a : Bool}
    (h : (Rule.runAny .choice p.rules).Acts (· = .driver) c a d) :
    p.advance (c.under []) =
      if a && d.tokens.size < c.tokens.size then .ok true (d.under [])
      else .ok false (c.under []) := by
  have hprogress : (p.progress c.tokens.size).Acts (· = .driver) c
      (a && d.tokens.size < c.tokens.size) d :=
    h.bind (.get (.pure _) fun _ => rfl)
  have hattempt : (State.attempt .driver (p.progress c.tokens.size)).Acts (fun _ => False) c _ _ :=
    hprogress.attempt rfl fun _ h => h.elim
  obtain ⟨f, -, hrun⟩ := hattempt
  have hround := hrun [] (by simp)
  rw [advance_eq_attempt]
  refine hround.trans ?_
  split <;> simp_all

/-! ## Giving up on tokens -/

/-- Recording the tokens that are given up writes attributes only. -/
theorem record_unknown (taken : List String) (dests : List String) (st : State) :
    (dests.foldl (fun st dest => st.extend dest (.ofTexts taken)) st).tokens = st.tokens ∧
      (dests.foldl (fun st dest => st.extend dest (.ofTexts taken)) st).scratch = st.scratch ∧
      (st.savepoints = [] →
        (dests.foldl (fun st dest => st.extend dest (.ofTexts taken)) st).savepoints = []) := by
  induction dests generalizing st with
  | nil => exact ⟨rfl, rfl, id⟩
  | cons dest dests ih =>
    obtain ⟨htokens, hscratch, hsps⟩ := ih (st.extend dest (.ofTexts taken))
    exact ⟨htokens, hscratch, fun hst => hsps (congrArg (List.map _) hst)⟩

/-- What giving up does, in one step. -/
theorem skip_apply (mode : Mode) (st : State) :
    skip mode st =
      let (skipped, behind) := (st.next? (mode.skipCount st.tokens.size)).getD ([], st)
      .ok skipped
        (mode.unknownDest.foldl (fun st dest => st.extend dest (.ofTexts skipped)) behind) :=
  rfl

theorem exists_next {st : State} (left : st.tokens.isEmpty = false) :
    ∃ token rest, st.tokens.remaining = token :: rest := by
  refine List.exists_cons_of_ne_nil fun hnil => ?_
  rw [(TokenBuffer.isEmpty_iff _).mpr hnil] at left
  cases left

/-- Where tokens are left, giving up takes some of them from the front, and never fails. -/
theorem skip_eq (mode : Mode) {st : State} (left : st.tokens.isEmpty = false) :
    ∃ st', skip mode st =
        .ok (st.tokens.remaining.take (mode.skipCount st.tokens.size)) st' ∧
      st'.tokens.size < st.tokens.size ∧ (st.savepoints = [] → st'.savepoints = []) := by
  have hsize : st.tokens.size ≠ 0 := by simpa [TokenBuffer.isEmpty] using left
  obtain ⟨hle, hpos⟩ : mode.skipCount st.tokens.size ≤ st.tokens.size ∧
      mode.skipCount st.tokens.size ≠ 0 := by
    cases mode with
    | strict => exact ⟨Nat.le_refl _, hsize⟩
    | lenient dests => exact ⟨Nat.one_le_iff_ne_zero.mpr hsize, Nat.one_ne_zero⟩
  have htake : st.tokens.take? (mode.skipCount st.tokens.size) = some _ :=
    if_neg (Nat.not_lt.mpr hle)
  have hrest := TokenBuffer.size_of_take? htake
  rw [skip_apply, State.next?, htake]
  refine ⟨_, rfl, ?_, fun hst => ?_⟩
  · rw [(record_unknown _ _ _).1]
    exact Nat.lt_of_lt_of_le (Nat.lt_add_of_pos_right (Nat.pos_of_ne_zero hpos))
      (Nat.le_of_eq hrest)
  · exact (record_unknown _ _ _).2.2 (congrArg (List.map _) hst)

/-- A skip records in the attributes named for it what it gives up on: the tokens that it consumes,
or none if there are too few left. -/
theorem skip_eq_ok {mode : Mode} {st mid : State} {taken : List String}
    (h : skip mode st = .ok taken mid) :
    ∃ behind : State,
      mode.unknownDest.foldl (fun st dest => st.extend dest (.ofTexts taken)) behind = mid ∧
        (taken = [] ∧ behind = st ∨
          ∃ buffer, st.tokens.take? (mode.skipCount st.tokens.size) = some (taken, buffer) ∧
            behind = { st.captureTokens with tokens := buffer }) := by
  rw [skip_apply] at h
  cases hnext : st.next? (mode.skipCount st.tokens.size) with
  | none =>
    rw [hnext] at h
    obtain ⟨rfl, rfl⟩ := EStateM.Result.ok.inj h
    exact ⟨st, rfl, .inl ⟨rfl, rfl⟩⟩
  | some next =>
    obtain ⟨skipped, rest⟩ := next
    rw [hnext] at h
    obtain ⟨rfl, rfl⟩ := EStateM.Result.ok.inj h
    obtain ⟨buffer, htake, rfl⟩ := State.next?_eq_some.mp hnext
    exact ⟨_, rfl, .inr ⟨buffer, htake, rfl⟩⟩

/-- What a skip gives up on stood in front of what is left after it. -/
theorem remaining_of_skip {mode : Mode} {st mid : State} {taken : List String}
    (h : skip mode st = .ok taken mid) :
    st.tokens.remaining = taken ++ mid.tokens.remaining := by
  obtain ⟨behind, rfl, ⟨rfl, rfl⟩ | ⟨buffer, htake, rfl⟩⟩ := skip_eq_ok h
  · rw [(record_unknown _ _ _).1]
    rfl
  · rw [(record_unknown _ _ _).1]
    exact TokenBuffer.remaining_of_take? htake

theorem take_skipCount_strict (st : State) :
    st.tokens.remaining.take (Mode.strict.skipCount st.tokens.size) = st.tokens.remaining := by
  rw [Mode.skipCount, ← st.tokens.length_remaining, List.take_length]

theorem take_skipCount_lenient (dests : List String) {st : State} {token : String}
    {rest : List String} (h : st.tokens.remaining = token :: rest) :
    st.tokens.remaining.take ((Mode.lenient dests).skipCount st.tokens.size) = [token] := by
  rw [h]
  rfl

/-! ## Rounds -/

/-- The states that a parse comes to between its rounds. -/
inductive Position (p : TokenParser) (mode : Mode) (st : State) : State → Prop where
  | start : Position p mode st st
  | matched {here next : State} (h : Position p mode st here) (left : here.tokens.isEmpty = false)
      (advances : p.advance here = .ok true next) : Position p mode st next
  | skipped {here mid next : State} {taken : List String} (h : Position p mode st here)
      (left : here.tokens.isEmpty = false) (advances : p.advance here = .ok false mid)
      (skips : skip mode mid = .ok taken next) : Position p mode st next

/-- What a round of the loop does where no savepoint is open: it takes the first rule that matches
if a token is consumed by that, and changes nothing otherwise. -/
theorem Sound.advance_cases (h : p.Sound) {st : State} (hst : st.savepoints = []) :
    (∃ st', Rule.firstMatch p.rules st = some st' ∧ st'.tokens.size < st.tokens.size ∧
        st'.savepoints = [] ∧ p.advance st = .ok true st') ∨
      (∀ st', Rule.firstMatch p.rules st = some st' → st.tokens.size ≤ st'.tokens.size) ∧
        p.advance st = .ok false st := by
  obtain ⟨c, rfl⟩ := State.exists_eq_under hst
  obtain ⟨hnone, hacts⟩ | ⟨d, hsome, hacts⟩ := h.acts_choice c
  · have hadv := advance_under hacts
    rw [hnone]
    exact .inr ⟨nofun, hadv⟩
  · have hadv := advance_under hacts
    rw [hsome]
    by_cases hlt : d.tokens.size < c.tokens.size
    · exact .inl ⟨_, rfl, hlt, rfl, by simpa [hlt] using hadv⟩
    · refine .inr ⟨?_, by simpa [hlt] using hadv⟩
      rintro _ ⟨⟩
      exact Nat.le_of_not_lt hlt

theorem Sound.savepoints_position (h : p.Sound) {mode : Mode} {st here : State}
    (hst : st.savepoints = []) (hpos : Position p mode st here) : here.savepoints = [] := by
  induction hpos with
  | start => exact hst
  | matched _ _ advances ih =>
    obtain ⟨st', -, -, hsps, hadv⟩ | ⟨-, hadv⟩ := h.advance_cases ih
    · obtain ⟨-, rfl⟩ := EStateM.Result.ok.inj (hadv.symm.trans advances)
      exact hsps
    · exact nomatch hadv.symm.trans advances
  | skipped _ left advances skips ih =>
    obtain ⟨st', -, -, hsps, hadv⟩ | ⟨-, hadv⟩ := h.advance_cases ih
    · exact nomatch hadv.symm.trans advances
    · obtain ⟨-, rfl⟩ := EStateM.Result.ok.inj (hadv.symm.trans advances)
      obtain ⟨next, hskip, -, hsps⟩ := skip_eq mode left
      obtain ⟨-, rfl⟩ := EStateM.Result.ok.inj (hskip.symm.trans skips)
      exact hsps ih

/-- The rounds of a parse, by the rules run alone: the first rule that matches is taken where it
consumes a token; elsewhere tokens are given up. -/
inductive Scan (mode : Mode) (rules : List Rule) : State → List String → State → Prop where
  | done {st : State} (none_left : st.tokens.isEmpty = true) : Scan mode rules st [] st
  | matched {st mid st' : State} {unparsed : List String} (left : st.tokens.isEmpty = false)
      (first : Rule.firstMatch rules st = some mid) (consumes : mid.tokens.size < st.tokens.size)
      (rest : Scan mode rules mid unparsed st') : Scan mode rules st unparsed st'
  | skipped {st mid st' : State} {unparsed : List String} (left : st.tokens.isEmpty = false)
      (stuck : ∀ mid, Rule.firstMatch rules st = some mid → st.tokens.size ≤ mid.tokens.size)
      (skips : skip mode st =
        .ok (st.tokens.remaining.take (mode.skipCount st.tokens.size)) mid)
      (rest : Scan mode rules mid unparsed st') :
      Scan mode rules st (st.tokens.remaining.take (mode.skipCount st.tokens.size) ++ unparsed) st'

/-- As many rounds as tokens are enough, and none of them fails. -/
theorem Sound.scan (h : p.Sound) (mode : Mode) {rounds : Nat} {st : State}
    (hst : st.savepoints = []) (hrounds : st.tokens.size ≤ rounds) :
    ∃ unparsed st', p.consumeAll mode rounds st = .ok unparsed st' ∧
      Scan mode p.rules st unparsed st' := by
  induction rounds generalizing st with
  | zero =>
    have hempty : st.tokens.isEmpty = true := by simpa [TokenBuffer.isEmpty] using hrounds
    exact ⟨[], st, rfl, .done hempty⟩
  | succ rounds ih =>
    rw [consumeAll, Step.get_bind]
    cases left : st.tokens.isEmpty with
    | true => exact ⟨[], st, rfl, .done left⟩
    | false =>
      rw [if_neg Bool.false_ne_true, Step.bind_apply]
      obtain ⟨mid, hfirst, hlt, hsps, hadv⟩ | ⟨hstuck, hadv⟩ := h.advance_cases hst
      · obtain ⟨unparsed, st', hrun, hscan⟩ := ih hsps (by omega)
        rw [hadv]
        exact ⟨unparsed, st', hrun, .matched left hfirst hlt hscan⟩
      · obtain ⟨mid, hskip, hlt, hsps⟩ := skip_eq mode left
        obtain ⟨unparsed, st', hrun, hscan⟩ := ih (hsps hst) (by omega)
        rw [hadv]
        refine ⟨_, st', ?_, .skipped left hstuck hskip hscan⟩
        show (skip mode >>= _) st = _
        rw [Step.bind_apply, hskip]
        show (p.consumeAll mode rounds >>= _) mid = _
        rw [Step.bind_apply, hrun]
        rfl

/-- A round that consumes leads to where the first rule leads that matches alone. -/
theorem Sound.advance_of_first (h : p.Sound) {st mid : State} (hst : st.savepoints = [])
    (hfirst : Rule.firstMatch p.rules st = some mid) (hlt : mid.tokens.size < st.tokens.size) :
    p.advance st = .ok true mid ∧ mid.savepoints = [] := by
  obtain ⟨st', hsome, -, hsps, hadv⟩ | ⟨hstuck, -⟩ := h.advance_cases hst
  · obtain rfl := Option.some.inj (hsome.symm.trans hfirst)
    exact ⟨hadv, hsps⟩
  · exact absurd hlt (Nat.not_lt.mpr (hstuck mid hfirst))

/-- A round in which the first rule that matches, if any, consumes nothing changes nothing. -/
theorem Sound.advance_of_stuck (h : p.Sound) {st : State} (hst : st.savepoints = [])
    (hstuck : ∀ mid, Rule.firstMatch p.rules st = some mid → st.tokens.size ≤ mid.tokens.size) :
    p.advance st = .ok false st := by
  obtain ⟨st', hsome, hlt, -, -⟩ | ⟨-, hadv⟩ := h.advance_cases hst
  · exact absurd hlt (Nat.not_lt.mpr (hstuck st' hsome))
  · exact hadv

/-- At the end no token is left, and no savepoint is open. -/
theorem Sound.scan_end (h : p.Sound) {mode : Mode} {st st' : State} {unparsed : List String}
    (hst : st.savepoints = []) (hscan : Scan mode p.rules st unparsed st') :
    st'.savepoints = [] ∧ st'.tokens.isEmpty = true := by
  induction hscan with
  | done none_left => exact ⟨hst, none_left⟩
  | matched _ first consumes _ ih => exact ih (h.advance_of_first hst first consumes).2
  | skipped left _ skips _ ih =>
    obtain ⟨mid, hskip, -, hsps⟩ := skip_eq mode left
    obtain ⟨-, rfl⟩ := EStateM.Result.ok.inj (hskip.symm.trans skips)
    exact ih (hsps hst)

/-- A parse in terms of what its rounds lead to: what is left to fail is a strict parse that gave up
on tokens, and a validator. -/
theorem Sound.parse_of_consumeAll (h : p.Sound) {mode : Mode} {tokens unparsed : List String}
    {attributes : Option Namespace} {st : State}
    (hrun : p.consumeAll mode tokens.length (.start tokens attributes) = .ok unparsed st) :
    p.parse mode tokens attributes =
      if mode = .strict ∧ unparsed ≠ [] then .error (.unparsedTokens unparsed)
      else (validate mode p.validators st.attributes).map (·, unparsed) := by
  have hstart : (State.start tokens attributes).savepoints = [] := rfl
  obtain ⟨unparsed', st', hrun', hscan⟩ :=
    h.scan mode hstart (Nat.le_of_eq (TokenBuffer.size_ofTokens tokens))
  obtain ⟨rfl, rfl⟩ := EStateM.Result.ok.inj (hrun.symm.trans hrun')
  obtain ⟨hsps, hempty⟩ := h.scan_end rfl hscan
  have hsize : st.tokens.size = 0 := by simpa [TokenBuffer.isEmpty] using hempty
  have hfinish : st.finish = .ok st.attributes := by simp [State.finish, hsps, hsize]
  rw [parse, hrun]
  simp only [hfinish]
  rfl

/-- The rounds of a parse never fail. -/
theorem Sound.parse_eq (h : p.Sound) (mode : Mode) (tokens : List String)
    (attributes : Option Namespace) :
    ∃ unparsed st, Scan mode p.rules (.start tokens attributes) unparsed st ∧
      p.parse mode tokens attributes =
        if mode = .strict ∧ unparsed ≠ [] then .error (.unparsedTokens unparsed)
        else (validate mode p.validators st.attributes).map (·, unparsed) := by
  have hstart : (State.start tokens attributes).savepoints = [] := rfl
  obtain ⟨unparsed, st, hrun, hscan⟩ :=
    h.scan mode hstart (Nat.le_of_eq (TokenBuffer.size_ofTokens tokens))
  exact ⟨unparsed, st, hscan, h.parse_of_consumeAll hrun⟩

end TokenParser

/-! ## Declared arguments -/

namespace ArgumentParser

/-- Every round of every parse takes the first declared rule that matches alone, if a token is
consumed by that, and changes nothing otherwise. The parse comes to an end in rounds like these. -/
theorem Built.dispatch {q : ArgumentParser} (h : q.Built Handler.Local) (mode : Mode)
    (tokens : List String) (attributes : Option Namespace) :
    (∀ st, TokenParser.Position q.compile mode (.start tokens attributes) st →
      q.compile.advance st =
        match Rule.firstMatch q.rules st with
        | some st' => if st'.tokens.size < st.tokens.size then .ok true st' else .ok false st
        | none => .ok false st) ∧
      ∃ unparsed st',
        q.compile.consumeAll mode tokens.length (.start tokens attributes) = .ok unparsed st' ∧
          TokenParser.Scan mode q.rules (.start tokens attributes) unparsed st' := by
  have hsound : q.compile.Sound := by
    rw [TokenParser.Sound, h.rules_compile]
    exact h.sound fun _ => Handler.local_of_builtIn
  refine ⟨fun st hpos => ?_, ?_⟩
  · have hsps : st.savepoints = [] := hsound.savepoints_position rfl hpos
    have hcases := hsound.advance_cases hsps
    rw [h.rules_compile] at hcases
    obtain ⟨st', hfirst, hlt, -, hadv⟩ | ⟨hstuck, hadv⟩ := hcases
    · rw [hfirst, hadv]
      exact (if_pos hlt).symm
    · rw [hadv]
      cases hfirst : Rule.firstMatch q.rules st with
      | none => rfl
      | some st' => exact (if_neg (Nat.not_lt.mpr (hstuck st' hfirst))).symm
  · rw [← h.rules_compile]
    exact hsound.scan mode rfl (Nat.le_of_eq (TokenBuffer.size_ofTokens tokens))

/-- An optimisation level that may be left out, fused to its flag. -/
def level : Argument := { names := ["-O"], nargs := some .optional, choices := ["1", "2"] }

/-- A flag that starts with the flag of the level. -/
def small : Argument := { names := ["-Os"], action := some .storeTrue }

/-- The level and then the flag. -/
def levels : Except GrammarError ArgumentParser := do
  let (_, p) ← ({} : ArgumentParser).addArgument level
  let (_, q) ← p.addArgument small
  return q

theorem built_levels {ok : Handler → Prop} {q : ArgumentParser} (h : levels = .ok q) :
    q.Built ok := by
  obtain ⟨⟨_, p⟩, hlevel, h⟩ := Declaration.bind_eq_ok.mp h
  obtain ⟨⟨_, q⟩, hsmall, h⟩ := Declaration.bind_eq_ok.mp h
  obtain rfl := Except.ok.inj h
  have hnone : ∀ h ∈ (none : Option Handler), ok h := fun _ h => nomatch h
  have hp : p.Built ok := .addArgument ⟨hnone, hnone⟩ .new hlevel
  exact .addArgument ⟨hnone, hnone⟩ hp hsmall

/-- The level takes a token of its own, and the token of the flag is given up. -/
theorem Built.dispatch_levels :
    ∃ q, levels = .ok q ∧ q.Built Handler.Local ∧
      ∃ st', q.compile.consumeAll (.lenient []) 2 (.start ["-O1", "-Os"] none) = .ok ["-Os"] st' ∧
        TokenParser.Scan (.lenient []) q.rules (.start ["-O1", "-Os"] none) ["-Os"] st' := by
  have heval : levels.toOption.bind (fun q =>
      (q.compile.consumeAll (.lenient []) 2).run' (.start ["-O1", "-Os"] none)) = some ["-Os"] := by
    decide +kernel
  cases hq : levels with
  | error e => exact nomatch (congrArg Except.toOption hq ▸ heval)
  | ok q =>
    rw [hq] at heval
    have hbuilt : q.Built Handler.Local := built_levels hq
    obtain ⟨-, unparsed, st', hrun, hscan⟩ :=
      Built.dispatch hbuilt (.lenient []) ["-O1", "-Os"] none
    obtain rfl := Option.some.inj ((Step.run'_eq_some.mpr ⟨_, hrun⟩).symm.trans heval)
    exact ⟨q, rfl, hbuilt, st', hrun, hscan⟩

/-- A rule that consumes a token when it is run alone may be shadowed by one that matches without
consuming. -/
theorem not_forall_progress_advance :
    ¬ ∀ q : ArgumentParser, q.Built Handler.Local → ∀ (mode : Mode) (tokens : List String) st,
      TokenParser.Position q.compile mode (.start tokens none) st →
      (∃ r ∈ q.rules, ∃ st', r.alone st = some st' ∧ st'.tokens.size < st.tokens.size) →
      ∃ st', q.compile.advance st = .ok true st' := by
  intro h
  have heval : levels.toOption.map (fun q =>
      (q.rules.map fun r => (r.alone (.start ["-Os"] none)).map (·.tokens.size),
        q.compile.advance.run' (.start ["-Os"] none))) = some ([some 1, some 0], some false) := by
    decide +kernel
  cases hq : levels with
  | error e => rw [hq] at heval; exact nomatch heval
  | ok q =>
    rw [hq] at heval
    obtain ⟨hrules, hadv⟩ := Prod.mk.inj (Option.some.inj heval)
    have hsmall : some 0 ∈ q.rules.map fun r =>
        (r.alone (.start ["-Os"] none)).map (·.tokens.size) := by simp [hrules]
    obtain ⟨r, hr, halone⟩ := List.mem_map.mp hsmall
    obtain ⟨st', hst', hsize⟩ := Option.map_eq_some_iff.mp halone
    obtain ⟨next, hnext⟩ := h q (built_levels hq) .strict ["-Os"] _ .start
      ⟨r, hr, st', hst', by rw [hsize]; decide⟩
    exact nomatch (Step.run'_eq_some.mpr ⟨_, hnext⟩).symm.trans hadv

end ArgumentParser

end TokenGrammar
