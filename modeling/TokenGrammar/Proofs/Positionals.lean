import TokenGrammar.Proofs.Destinations

/-!
# Positional arguments and flags

What a match of a positional argument says of the tokens in front, and what it does. It looks twice
whether a token is a flag: a lookahead refuses a flag in front, and the values end before a flag
once there are as many as the lower bound asks for. So a flag is consumed only behind the first
value, where the argument appends and has an exact count that is not yet met.

* `Declaration.Ready`: where a positional argument matches;
* `Declaration.ensures_build_positional`: a match counts itself and consumes its values, and the
  handlers do the rest;
* `Declaration.ensures_flagPair_positional`: a flag and its opposite without flags never match;
* `Declaration.unchanged_of_mismatch`: an argument that does not match changes nothing;
* `ArgumentParser.Declares.consumed_flag`: which flags the rule of a positional argument consumes.
-/

namespace TokenGrammar

namespace Rule

/-- A lookahead for a token that can be replaced matches where it cannot. -/
theorem ensures_not_replaceNext (id : Nat) (f : String → Option String) :
    (notStep id (replaceNext f)).Ensures fun c d => c = d ∧ c.tokens.head?.bind f = none := by
  intro st st' hrun
  refine ⟨Step.Ensures.notStep (orderly_replaceNext f) st st' hrun, ?_⟩
  obtain ⟨mid, -, hstep, -⟩ := notStep_eq_ok.mp hrun
  rw [replaceNext_eq, Step.get_bind] at hstep
  show st.tokens.head?.bind f = none
  cases hf : st.tokens.head?.bind f with
  | none => rfl
  | some token =>
    have hopened : (st.opened (.rule id)).tokens.head?.bind f = some token := hf
    simp only [hopened, Step.bind_eq_ok, Step.pure_eq_ok] at hstep
    obtain ⟨_, _, -, hmatched, -⟩ := hstep
    cases hmatched

/-- A limit matches below its bound. -/
theorem ensures_limitStep_below (id : Nat) (most : Option Nat) :
    (limitStep id most).Ensures fun c d =>
      most.any (Int64.ofNat · ≤ c.scratch.count id) = false ∧ (Rule.limit id most).Effect c d := by
  intro st st' hrun
  refine ⟨?_, ensures_limitStep id most st st' hrun⟩
  simp only [limitStep, Step.get_bind] at hrun
  split at hrun
  · cases (Step.pure_eq_ok.mp hrun).1
  · rename_i hbelow
    exact Bool.eq_false_iff.mpr hbelow

end Rule

/-- One more match of a limit is counted. -/
def Content.counted (id : Nat) (c : Content) : Content :=
  { c with scratch := c.scratch.set (.rule id) Rule.counterKey (.int (c.scratch.count id + 1)) }

namespace Declaration

variable {base : Nat} {r : ResolvedArgument} {name : String} {α : Type} {part : Content → α}

/-- A positional argument matches here: the next token is no flag, the bound on its matches is not
met, and there are enough values. -/
structure Ready (base : Nat) (r : ResolvedArgument) (c : Content) : Prop where
  unflagged : ∀ token ∈ c.tokens.head?, startsWithAny r.prefixChars token = false
  below : (positionalLimit r.append r.nargs).bounds.most.any
    (Int64.ofNat · ≤ c.scratch.count (base + 2)) = false
  enough : (collector base r).enough c.tokens.remaining = true

/-- In front of the values of a positional argument its match is counted, and nothing else is
changed. -/
theorem ensures_front_positional (hkind : r.kind = .positional name) (base : Nat) :
    (Rule.runAll (front base r)).Ensures fun c d =>
      (∀ token ∈ c.tokens.head?, startsWithAny r.prefixChars token = false) ∧
        (positionalLimit r.append r.nargs).bounds.most.any
          (Int64.ofNat · ≤ c.scratch.count (base + 2)) = false ∧ d = c.counted (base + 2) := by
  have hnot : (Rule.not (base + 1) (.removePrefix (r.prefixChars.toList.map fun c => .ofList [c])
      false)).run.Ensures fun c d =>
        c = d ∧ ∀ token ∈ c.tokens.head?, startsWithAny r.prefixChars token = false := by
    rw [Rule.run, Rule.run]
    refine (Rule.ensures_not_replaceNext (base + 1) _).mono ?_
    rintro c d ⟨heq, hnone⟩
    refine ⟨heq, fun token htoken => ?_⟩
    rw [Option.mem_def.mp htoken, Option.bind_some] at hnone
    rw [← Rule.isSome_stripFirst?_chars, hnone]
    rfl
  have hlimit : (Rule.limiter (base + 2) (positionalLimit r.append r.nargs)).run.Ensures
      fun c d => (positionalLimit r.append r.nargs).bounds.most.any
        (Int64.ofNat · ≤ c.scratch.count (base + 2)) = false ∧ d = c.counted (base + 2) := by
    rw [Rule.limiter, Rule.run]
    exact Rule.ensures_limitStep_below (base + 2) _
  rw [front, hkind]
  refine (Rule.ensures_runAll_cons hnot
    (Rule.ensures_runAll_cons hlimit Rule.ensures_runAll_nil)).mono ?_
  rintro c _ ⟨_, ⟨rfl, hunflagged⟩, _, ⟨hbelow, rfl⟩, rfl⟩
  exact ⟨hunflagged, hbelow, rfl⟩

/-- The parts of a positional argument, one after the other. -/
theorem ensures_bareRule_positional (hkind : r.kind = .positional name)
    (hw : (writer r).Leaves part) (base : Nat) :
    (bareRule base r).run.Ensures fun c d =>
      Ready base r c ∧ part d = part ((collector base r).after (c.counted (base + 2))) := by
  have hcollect : (Rule.collect (collector base r) (writer r)).run.Ensures fun c d =>
      (collector base r).enough c.tokens.remaining = true ∧
        part d = part ((collector base r).after c) := by
    rw [Rule.run]
    exact Rule.ensures_collectStep_of_leaves hw
  rw [bareRule_eq, Rule.run]
  refine ((Rule.ensures_runAll_append (ensures_front_positional hkind base)
    (Rule.ensures_runAll_cons hcollect Rule.ensures_runAll_nil)).attempt).mono ?_
  rintro c _ ⟨_, ⟨hunflagged, hbelow, rfl⟩, e, ⟨henough, hpart⟩, rfl⟩
  exact ⟨⟨hunflagged, hbelow, henough⟩, hpart⟩

/-- A match of a positional argument, and what its handlers leave as it is. -/
theorem ensures_build_positional (hkind : r.kind = .positional name)
    (hpart : ∀ c attributes, part { c with attributes } = part c)
    (hr : r.Handlers (Handler.Leaves part)) (base : Nat) :
    (build base r).rule.run.Ensures fun c d =>
      Ready base r c ∧ part d = part ((collector base r).after (c.counted (base + 2))) := by
  have hbuiltIn : ∀ handler : Handler, handler.BuiltIn → handler.Leaves part :=
    fun _ h => Handler.leaves_of_builtIn h hpart
  have hbare := ensures_bareRule_positional hkind (ok_setterHandler hbuiltIn hr.1 _ _) base
  rw [rule_build, withCapture]
  split
  · exact hbare
  · rw [Rule.run]
    exact hbare.captureStep_of_leaves
      (T := fun c x => Ready base r c ∧ x = part ((collector base r).after (c.counted (base + 2))))
      (ok_rawHandler hbuiltIn hr)

/-- Without flags, a flag is not recognised. -/
theorem ensures_build_unspelled (hkind : r.kind = .optional [] []) (base : Nat) :
    (build base r).rule.run.Ensures fun _ _ => False := by
  have hnone : recognisers base r [] [] = [] := by simp [recognisers]
  have hany : (Rule.any (base + 4) (recognisers base r [] [])).run.Ensures fun _ _ => False := by
    rw [hnone, Rule.run]
    exact Rule.ensures_runAny (List.forall_mem_nil _) (List.forall_mem_nil _)
  have hbare : (bareRule base r).run.Ensures fun _ _ => False := by
    rw [bareRule_eq, front, hkind, Rule.run]
    intro st st' hrun
    obtain ⟨mid, -, hall, -⟩ := State.attempt_eq_ok.mp hrun
    rw [List.singleton_append, Rule.runAll, Step.bind_eq_ok] at hall
    obtain ⟨found, next, hfound, hall⟩ := hall
    cases found with
    | true => exact hany _ _ hfound
    | false => cases (Step.pure_eq_ok.mp hall).1
  obtain heq | ⟨handler, heq⟩ := rule_build_cases base r
  · rwa [heq]
  · rw [heq, Rule.run]
    have hnothing : handler.Leaves fun _ => () := fun _ _ _ => rfl
    exact hbare.captureStep_of_leaves (T := fun _ _ => False) hnothing

/-- A positional argument has no flags, so as a flag and its opposite it never matches. -/
theorem ensures_flagPair_positional (hkind : r.kind = .positional name)
    (hr : r.Handlers Handler.Orderly) (base : Nat) (trueSuffix falseSuffix : String) :
    (flagPair base r trueSuffix falseSuffix).rule.run.Ensures fun _ _ => False := by
  have hunspelled (value : Bool) (suffix : String) :
      (flagVariant r value suffix).kind = .optional [] [] := by
    rw [flagVariant, hkind]
    rfl
  have hsound := sound_flagPair (fun _ => Handler.orderly_of_builtIn) hr base trueSuffix falseSuffix
  have hords : ∀ q ∈ (flagPair base r trueSuffix falseSuffix).rule.subrules, q.Orderly :=
    fun q hq => ((hsound.library.subs q hq).orderlyRoot fun _ => id).orderly
  rw [flagPair, Rule.run]
  exact Rule.ensures_runAny (List.forall_mem_cons.mpr ⟨ensures_build_unspelled (hunspelled _ _) _,
    List.forall_mem_singleton.mpr (ensures_build_unspelled (hunspelled _ _) _)⟩) hords

/-- An argument that does not match changes nothing. -/
theorem unchanged_of_mismatch {a : Argument} {settings : Settings} {d : Declaration}
    (h : ofArgument base a settings {} = .ok d) (ha : a.Handlers Handler.Orderly) {st st' : State}
    (hrun : d.rule.run st = .ok false st') : st'.content = st.content := by
  have hsound := sound_ofArgument (fun _ => Handler.orderly_of_builtIn) ha h
  have hords : ∀ q ∈ d.rule.subrules, q.Orderly :=
    fun q hq => ((hsound.library.subs q hq).orderlyRoot fun _ => id).orderly
  refine (Rule.unchanged_of_takesBack hords hrun ?_).1
  obtain ⟨-, resolved, -, happly⟩ := ofArgument_eq_ok.mp h
  obtain ⟨s, -, rfl⟩ | rfl := applyAction_cases happly
  · obtain heq | ⟨handler, heq⟩ := rule_build_cases base s
    · rw [heq, bareRule_eq]
      rfl
    · rw [heq]
      rfl
  · rfl

/-- An action leaves a positional argument one, with the same prefix characters. -/
theorem adjust_positional {s : ResolvedArgument} {action : Action} (h : adjust r action = .ok s)
    (hkind : r.kind = .positional name) :
    s.kind = .positional name ∧ s.prefixChars = r.prefixChars := by
  cases action with
  | storeConst =>
    obtain ⟨-, rfl⟩ := withConstant_eq_ok.mp h
    exact ⟨hkind, rfl⟩
  | appendConst =>
    obtain ⟨-, rfl⟩ := appendConst_eq_ok.mp h
    exact ⟨hkind, rfl⟩
  | msvcFlagWithValue =>
    obtain rfl := Except.ok.inj h
    exact ⟨congrArg colonKind hkind, rfl⟩
  | _ =>
    obtain rfl := Except.ok.inj h
    exact ⟨hkind, rfl⟩

/-- Of the tokens that a positional argument takes, one from the second on may be a flag where the
argument appends and has an exact count that is not yet met. -/
theorem Ready.flag_taken {c : Content} (h : Ready base r c) (hkind : r.kind = .positional name)
    (hv : c.tokens.Valid) {k : Nat} {token : String}
    (hk : k < ((collector base r).gather 0 c.tokens.remaining).length)
    (htoken : c.tokens.remaining[k]? = some token)
    (hflag : startsWithAny r.prefixChars token = true) :
    r.append = true ∧ ∃ n, r.nargs = some (.exactly n) ∧ 0 < k ∧ k < n.toNat := by
  have hbehind : 0 < k := by
    refine Nat.pos_of_ne_zero ?_
    rintro rfl
    have hnext : c.tokens.head? = some token := by
      rw [hv.head?, List.head?_eq_getElem?, htoken]
    exact nomatch hflag.symm.trans (h.unflagged token hnext)
  have hbelow : k < (Nargs.boundsOf (if r.append then r.nargs else none)).least := by
    obtain ⟨-, -, hbelow | hno⟩ :=
      ((collector base r).admits_length_gather _).each k token hk htoken
    · rwa [collector, countPerMatch, hkind] at hbelow
    · exact nomatch hflag.symm.trans hno
  -- a lower bound above one is that of an exact count
  have hnone : ¬ k < (Nargs.boundsOf none).least := Nat.not_lt.mpr hbehind
  cases happend : r.append with
  | false =>
    rw [happend] at hbelow
    exact absurd hbelow hnone
  | true =>
    rw [happend, if_pos rfl] at hbelow
    cases hnargs : r.nargs with
    | none =>
      rw [hnargs] at hbelow
      exact absurd hbelow hnone
    | some nargs =>
      rw [hnargs] at hbelow
      cases nargs with
      | exactly n => exact ⟨rfl, n, rfl, hbehind, hbelow⟩
      | optional | zeroOrMore => exact absurd hbelow (Nat.not_lt_zero k)
      | oneOrMore => exact absurd hbelow hnone

/-- The tokens that are consumed are those that are taken. -/
theorem Ready.flags_behind {c d : Content} (h : Ready base r c) (hkind : r.kind = .positional name)
    (hv : c.tokens.Valid)
    (htokens : d.tokens = ((collector base r).after (c.counted (base + 2))).tokens) :
    c.tokens.Consumed d.tokens ∧ ∀ k token, c.tokens.cursor + k < d.tokens.cursor →
      c.tokens.remaining[k]? = some token → startsWithAny r.prefixChars token = true →
        r.append = true ∧ ∃ n, r.nargs = some (.exactly n) ∧ 0 < k ∧ k < n.toNat := by
  have hafter : d.tokens = { c.tokens with
    cursor := c.tokens.cursor + ((collector base r).gather 0 c.tokens.remaining).length } := htokens
  have htaken : ((collector base r).gather 0 c.tokens.remaining).length ≤ c.tokens.size := by
    rw [← c.tokens.length_remaining]
    exact (collector base r).length_gather_le 0 _
  rw [hafter]
  exact ⟨.advance htaken, fun k token hk => h.flag_taken hkind hv (Nat.lt_of_add_lt_add_left hk)⟩

/-- What a match of a positional argument consumes, whatever its action. -/
theorem exists_consumed_flag {a : Argument} {settings : Settings} {d : Declaration}
    {resolved : ResolvedArgument} (h : ofArgument base a settings {} = .ok d)
    (hresolve : resolve a settings = .ok resolved) (hkind : resolved.kind = .positional name)
    (ha : a.Handlers fun handler => handler.Orderly ∧ handler.Leaves Content.tokens) :
    ∃ r, adjusted a resolved = .ok r ∧ ∀ st st', st.tokens.Valid → d.rule.run st = .ok true st' →
      st.tokens.Consumed st'.tokens ∧ ∀ k token, st.tokens.cursor + k < st'.tokens.cursor →
        st.tokens.remaining[k]? = some token →
        startsWithAny resolved.prefixChars token = true →
          r.append = true ∧ ∃ n, r.nargs = some (.exactly n) ∧ 0 < k ∧ k < n.toNat := by
  obtain ⟨-, resolved', hresolve', happly⟩ := ofArgument_eq_ok.mp h
  obtain rfl := Except.ok.inj (hresolve'.symm.trans hresolve)
  have hr := handlers_resolve ha hresolve
  obtain ⟨haction, r, hadjust, rfl⟩ | ⟨haction, rfl⟩ := applyAction_eq_ok.mp happly
  · refine ⟨r, (if_neg haction).trans hadjust, fun st st' hv hrun => ?_⟩
    obtain ⟨hkind', hchars⟩ := adjust_positional hadjust hkind
    have hleaves := ((adjust_alike hadjust).handlers hr).mono fun _ => And.right
    obtain ⟨hready, htokens⟩ :=
      ensures_build_positional hkind' (fun _ _ => rfl) hleaves base st st' hrun
    rw [← hchars]
    exact hready.flags_behind hkind' hv htokens
  · refine ⟨_, if_pos haction, fun st st' _ hrun => ?_⟩
    exact (ensures_flagPair_positional hkind (hr.mono fun _ => And.left) base _ _ st st' hrun).elim

end Declaration

namespace ArgumentParser

variable {q : ArgumentParser} {calls : List Call} {i : Nat} {settings : Settings} {a : Argument}

/-- The rule with a number is what the argument with this number is compiled to. -/
theorem Declares.exists_ofArgument (h : q.Declares calls)
    (ha : (Call.arguments calls)[i]? = some (settings, a)) :
    ∃ d, Declaration.ofArgument (i * Declaration.width) a settings {} = .ok d ∧
      q.compile.rules[i]? = some d.rule := by
  obtain ⟨-, hnone⟩ | ⟨settings', a', d, ha', hd, hrule⟩ := Call.getElem?_compile h.compile_calls i
  · exact nomatch hnone.symm.trans ha
  · obtain ⟨rfl, rfl⟩ := Prod.mk.inj (Option.some.inj (ha.symm.trans ha'))
    rw [Nat.zero_add] at hd
    rw [h.compile_eq]
    exact ⟨d, hd, hrule⟩

/-- The rule of a positional argument consumes no flag, in whatever state it is run, unless the
argument appends and has an exact count: then it consumes flags behind the first value of a match,
as many tokens as it has to. Where it does not match it consumes nothing. The handlers of the
argument may be the user's own, if they work through the operations of the state and leave the
tokens alone. -/
theorem Declares.consumed_flag (h : q.Declares calls)
    (ha : (Call.arguments calls)[i]? = some (settings, a)) {resolved : ResolvedArgument}
    {name : String} (hresolve : Declaration.resolve a settings = .ok resolved)
    (hkind : resolved.kind = .positional name)
    (hhandlers : a.Handlers fun handler => handler.Orderly ∧ handler.Leaves Content.tokens) :
    ∃ rule r, q.compile.rules[i]? = some rule ∧ Declaration.adjusted a resolved = .ok r ∧
      ∀ (st st' : State) (matched : Bool), st.tokens.Valid → rule.run st = .ok matched st' →
        st.tokens.Consumed st'.tokens ∧ (matched = false → st'.tokens = st.tokens) ∧
          ∀ k token, st.tokens.cursor + k < st'.tokens.cursor →
            st.tokens.remaining[k]? = some token →
            startsWithAny resolved.prefixChars token = true →
              r.append = true ∧ ∃ n, r.nargs = some (.exactly n) ∧ 0 < k ∧ k < n.toNat := by
  obtain ⟨d, hd, hrule⟩ := h.exists_ofArgument ha
  obtain ⟨r, hadjusted, hmatch⟩ := Declaration.exists_consumed_flag hd hresolve hkind hhandlers
  refine ⟨d.rule, r, hrule, hadjusted, fun st st' matched hv hrun => ?_⟩
  cases matched with
  | true =>
    obtain ⟨hconsumed, hflag⟩ := hmatch st st' hv hrun
    exact ⟨hconsumed, nofun, hflag⟩
  | false =>
    have htokens : st'.tokens = st.tokens := congrArg Content.tokens
      (Declaration.unchanged_of_mismatch hd (hhandlers.mono fun _ => And.left) hrun)
    rw [htokens]
    exact ⟨.refl _, fun _ => rfl, fun k token hk => absurd hk (by omega)⟩

/-- Pairs of names, which are added up. -/
def pairs : Argument := { names := ["pairs"], nargs := some (.exactly 2), append := true }

/-- The second name of a pair may look like a flag. -/
theorem exists_run_pairs : ∃ rule q st', ({} : ArgumentParser).addArgument pairs = .ok (rule, q) ∧
    q.compile.rules[0]? = some rule ∧
    rule.run (.start ["a", "-x", "-y"] none) = .ok true st' ∧
    st'.tokens = ⟨["a", "-x", "-y"], 2⟩ :=
  ⟨_, _, _, rfl, rfl, rfl, rfl⟩

theorem exists_resolve_pairs :
    ∃ resolved, Declaration.resolve (pairs.inherit {}) {} = .ok resolved ∧
      resolved.kind = .positional "pairs" ∧ resolved.prefixChars = "-" :=
  ⟨_, rfl, rfl, rfl⟩

theorem Declares.consumed_flag_pairs :
    ∃ (q : ArgumentParser) (rule : Rule) (r : ResolvedArgument) (st' : State),
      q.Declares [.argument {} (pairs.inherit {})] ∧ q.compile.rules[0]? = some rule ∧
      rule.run (.start ["a", "-x", "-y"] none) = .ok true st' ∧ st'.tokens.remaining = ["-y"] ∧
      startsWithAny "-" "-x" = true ∧
      r.append = true ∧ ∃ n, r.nargs = some (.exactly n) ∧ 0 < 1 ∧ 1 < n.toNat := by
  obtain ⟨rule, q, st', hadd, hrule, hrun, htokens⟩ := exists_run_pairs
  obtain ⟨resolved, hresolve, hkind, hchars⟩ := exists_resolve_pairs
  have hdeclares := Declares.new.addArgument hadd
  have ha : (Call.arguments [.argument {} (pairs.inherit {})])[0]? =
      some (({} : Settings), pairs.inherit {}) := rfl
  have hhandlers : (pairs.inherit {}).Handlers
      fun handler => handler.Orderly ∧ handler.Leaves Content.tokens := ⟨nofun, nofun⟩
  obtain ⟨rule', r, hrule', -, hmatch⟩ := hdeclares.consumed_flag ha hresolve hkind hhandlers
  obtain rfl := Option.some.inj (hrule'.symm.trans hrule)
  have hv : (State.start ["a", "-x", "-y"] none).tokens.Valid :=
    ⟨Nat.zero_le _, by decide⟩
  have hflag : startsWithAny resolved.prefixChars "-x" = true := by
    rw [hchars]
    decide
  obtain ⟨-, -, hconsumed⟩ := hmatch _ st' true hv hrun
  refine ⟨q, rule', r, st', hdeclares, hrule, hrun, by rw [htokens]; rfl, by decide, ?_⟩
  exact hconsumed 1 "-x" (by rw [htokens]; decide) rfl hflag

/-- So a flag is consumed where a pair is not complete. -/
theorem not_forall_consumed_flag :
    ¬ ∀ (q : ArgumentParser) (settings : Settings) (a : Argument) (resolved : ResolvedArgument)
        (name : String), q.Declares [.argument settings a] →
      Declaration.resolve a settings = .ok resolved → resolved.kind = .positional name →
      a.handler = none → a.rawHandler = none → ∀ rule, q.compile.rules[0]? = some rule →
      ∀ tokens st', rule.run (.start tokens none) = .ok true st' →
      ∀ k token, k < st'.tokens.cursor → tokens[k]? = some token →
        startsWithAny resolved.prefixChars token = false := by
  intro hall
  obtain ⟨rule, q, st', hadd, hrule, hrun, htokens⟩ := exists_run_pairs
  obtain ⟨resolved, hresolve, hkind, hchars⟩ := exists_resolve_pairs
  have hno := hall q {} (pairs.inherit {}) resolved "pairs" (Declares.new.addArgument hadd) hresolve
    hkind rfl rfl rule hrule ["a", "-x", "-y"] st' hrun 1 "-x" (by rw [htokens]; decide) rfl
  rw [hchars] at hno
  exact absurd hno (by decide)

end ArgumentParser
end TokenGrammar
