import TokenGrammar.Proofs.Declared
import TokenGrammar.Proofs.Effects

/-!
# The tokens behind a match

A declared argument respells one token at most, the one in front, before it consumes anything. So
once a match has consumed a token, what is left are the tokens of before, as they were spelled.

* `TokenBuffer.Consumed`, `TokenBuffer.Respelled`: what a match may do to the tokens;
* `TokenBuffer.Respelled.remaining_eq`: what is left after a match that consumed;
* `Declaration.respelled_build`: all forms of rules that are built for arguments do only this: a
  flag, a fused prefix, a positional argument, with any count of values and with or without capture.
  `ArgumentParser.Declares.respelled`: so does every rule of an argument parser.
-/

namespace TokenGrammar

namespace TokenBuffer

/-- The second buffer is the first one with some more tokens consumed. -/
structure Consumed (b d : TokenBuffer) : Prop where
  tokens : d.tokens = b.tokens
  cursor : b.cursor ≤ d.cursor
  inside : b.cursor ≤ b.tokens.length → d.cursor ≤ d.tokens.length

/-- The second buffer is the first one with some more tokens consumed, where the token in front may
have been respelled. -/
structure Respelled (b d : TokenBuffer) : Prop where
  length : d.tokens.length = b.tokens.length
  cursor : b.cursor ≤ d.cursor
  inside : b.cursor ≤ b.tokens.length → d.cursor ≤ d.tokens.length
  behind : d.tokens.drop (b.cursor + 1) = b.tokens.drop (b.cursor + 1)

variable {b d e : TokenBuffer}

theorem Consumed.refl (b : TokenBuffer) : b.Consumed b := ⟨rfl, Nat.le_refl _, id⟩

theorem Consumed.advance {n : Nat} (h : n ≤ b.size) :
    b.Consumed { b with cursor := b.cursor + n } := by
  refine ⟨rfl, Nat.le_add_right _ n, fun hb => ?_⟩
  show b.cursor + n ≤ b.tokens.length
  rw [size] at h
  omega

theorem Consumed.of_take {n : Nat} {taken : List String} (h : b.take? n = some (taken, d)) :
    b.Consumed d := by
  simp only [take?, Option.ite_none_left_eq_some, Option.some.injEq, Prod.mk.injEq] at h
  obtain ⟨hn, -, rfl⟩ := h
  exact .advance (Nat.le_of_not_lt hn)

namespace Respelled

theorem of_consumed (h : b.Consumed d) : b.Respelled d :=
  ⟨congrArg List.length h.tokens, h.cursor, h.inside, congrArg (List.drop _) h.tokens⟩

theorem trans_consumed (h : b.Respelled d) (h' : d.Consumed e) : b.Respelled e where
  length := (congrArg List.length h'.tokens).trans h.length
  cursor := Nat.le_trans h.cursor h'.cursor
  inside := h'.inside ∘ h.inside
  behind := (congrArg (List.drop _) h'.tokens).trans h.behind

/-- The position of the next token is not behind the cursor. -/
theorem replace_next (b : TokenBuffer) (token : String) :
    b.Respelled (b.replace b.front token) := by
  have hlength : (b.replace b.front token).tokens.length = b.tokens.length :=
    List.length_set
  refine ⟨hlength, Nat.le_refl _, fun hb => hlength ▸ hb, ?_⟩
  have hposition : b.front ≤ b.cursor := by
    rw [front, UInt64.toNat_ofNat']
    exact Nat.mod_le _ _
  rw [replace, List.drop_set, if_pos (Nat.lt_succ_of_le hposition)]

/-- A match that consumed a token leaves the tokens behind those that it consumed, as they were
spelled. -/
theorem remaining_eq (h : b.Respelled d) (hmove : b.cursor < d.cursor) :
    d.remaining = b.remaining.drop (d.cursor - b.cursor) := by
  have hd : d.cursor = b.cursor + 1 + (d.cursor - b.cursor - 1) := by omega
  rw [remaining, remaining, List.drop_drop, hd, ← List.drop_drop, h.behind, List.drop_drop]
  congr 1
  omega

theorem cursor_lt (h : b.Respelled d) (hsize : d.size < b.size) : b.cursor < d.cursor := by
  have := h.cursor
  simp only [size, h.length] at hsize
  omega

end Respelled

end TokenBuffer

/-! ## Rules of declared arguments -/

namespace Rule

theorem consumed_skip (n : Nat) :
    (run (.skip n)).Ensures fun c d => c.tokens.Consumed d.tokens := by
  refine (ensures_skip n).mono ?_
  rintro c d ⟨taken, b, htake, rfl⟩
  exact .of_take htake

theorem consumed_collect {collector : Collector} {handler : Handler}
    (hh : handler.Leaves Content.tokens) :
    (run (.collect collector handler)).Ensures fun c d => c.tokens.Consumed d.tokens := by
  rw [run]
  refine (ensures_collectStep_of_leaves hh).mono ?_
  rintro c d ⟨-, htokens⟩
  rw [htokens]
  refine .advance ?_
  rw [← c.tokens.length_remaining]
  exact collector.length_gather_le 0 _

end Rule

theorem Handler.leaves_tokens_of_builtIn {handler : Handler} (h : handler.BuiltIn) :
    handler.Leaves Content.tokens := leaves_of_builtIn h fun _ _ => rfl

theorem Handler.orderly_leaves_of_builtIn {handler : Handler} (h : handler.BuiltIn) :
    handler.Orderly ∧ handler.Leaves Content.tokens :=
  ⟨orderly_of_builtIn h, leaves_tokens_of_builtIn h⟩

namespace Declaration

variable {base : Nat} {r : ResolvedArgument}

theorem consumed_setter {handler : Option Handler} (hh : ∀ h ∈ handler, h.Leaves Content.tokens)
    (id : Nat) (dest : String) (nargs : Option Nargs) (filter : ValueFilter) (accumulate : Bool) :
    (setter id dest nargs filter accumulate handler).run.Ensures
      fun c d => c.tokens.Consumed d.tokens := by
  obtain ⟨c, h, hset, -, -, hok⟩ := setter_eq (fun _ => Handler.leaves_tokens_of_builtIn) hh id dest
    nargs filter accumulate
  rw [hset]
  exact Rule.consumed_collect hok

/-- A flag is consumed; a prefix is stripped off a token that stays. -/
theorem respelled_recognisers (flags prefixes : List String) :
    ∀ q ∈ recognisers base r flags prefixes,
      q.run.Ensures fun c d => c.tokens.Respelled d.tokens := by
  intro q hq
  obtain rfl | rfl := eq_of_mem_recognisers hq
  · have hflag : (Rule.oneOf flags r.ignoreCase).run.Ensures Eq := by
      rw [Rule.oneOf, Rule.run]
      exact Rule.ensures_onNext _
    rw [Rule.run]
    refine (Rule.ensures_runAll_cons hflag (Rule.ensures_runAll_cons (Rule.consumed_skip 1)
      Rule.ensures_runAll_nil)).attempt.mono ?_
    rintro c _ ⟨_, rfl, d, hskip, rfl⟩
    exact .of_consumed hskip
  · have hprefix : (Rule.removePrefix prefixes r.ignoreCase).run.Ensures fun c d =>
        c.tokens.Respelled d.tokens := by
      rw [Rule.run]
      refine (Rule.ensures_replaceNext _).mono ?_
      rintro c d ⟨token, rfl⟩
      exact .replace_next c.tokens token
    have hempty : (Rule.not (base + 3) .isEmpty).run.Ensures Eq := by
      rw [Rule.run, Rule.run]
      exact .notStep (Rule.orderly_onNext _)
    rw [Rule.run]
    refine (Rule.ensures_runAll_cons hprefix (Rule.ensures_runAll_cons hempty
      Rule.ensures_runAll_nil)).attempt.mono ?_
    rintro c _ ⟨d, hstrip, _, rfl, rfl⟩
    exact hstrip

theorem respelled_optionalRule (hr : r.Handlers (Handler.Leaves Content.tokens)) (dest : String)
    (flags prefixes : List String) :
    (optionalRule base r dest flags prefixes).run.Ensures
      fun c d => c.tokens.Respelled d.tokens := by
  have horderly : ∀ q ∈ recognisers base r flags prefixes, q.Orderly := by
    intro q hq
    have hsound : q.Sound Handler.BuiltIn base (base + 4) := sound_recognisers flags prefixes q hq
    exact hsound.library.orderly
  have hany : (Rule.any (base + 4) (recognisers base r flags prefixes)).run.Ensures
      fun c d => c.tokens.Respelled d.tokens := by
    rw [Rule.run]
    exact Rule.ensures_runAny (respelled_recognisers flags prefixes) horderly
  rw [optionalRule, Rule.run]
  refine (Rule.ensures_runAll_cons hany (Rule.ensures_runAll_cons
    (consumed_setter hr.1 (base + 5) dest r.nargs (valueFilter r) r.append)
    Rule.ensures_runAll_nil)).attempt.mono ?_
  rintro c _ ⟨d, hrecognised, e, hvalues, rfl⟩
  exact hrecognised.trans_consumed hvalues

/-- A positional argument looks whether a prefix could be stripped, but takes that back. -/
theorem consumed_positionalRule (hr : r.Handlers (Handler.Leaves Content.tokens)) (dest : String) :
    (positionalRule base r dest).run.Ensures fun c d => c.tokens.Consumed d.tokens := by
  have hnot : (Rule.not (base + 1)
      (.removePrefix (r.prefixChars.toList.map fun c => .ofList [c]) false)).run.Ensures Eq := by
    rw [Rule.run, Rule.run]
    exact .notStep (Rule.orderly_replaceNext _)
  have hlimit : (Rule.limiter (base + 2) (positionalLimit r.append r.nargs)).run.Ensures
      fun c d => d.tokens = c.tokens := by
    rw [Rule.limiter, Rule.run]
    refine (Rule.ensures_limitStep _ _).mono ?_
    rintro c d rfl
    rfl
  rw [positionalRule, Rule.run]
  refine (Rule.ensures_runAll_cons hnot (Rule.ensures_runAll_cons hlimit
    (Rule.ensures_runAll_cons (consumed_setter hr.1 (base + 5) dest
      (if r.append then r.nargs else none) (valueFilter r) (r.append || r.nargs.isSome))
      Rule.ensures_runAll_nil))).attempt.mono ?_
  rintro c _ ⟨_, rfl, d, hd, e, hvalues, rfl⟩
  exact hd ▸ hvalues

theorem respelled_bareRule (hr : r.Handlers (Handler.Leaves Content.tokens)) (base : Nat) :
    (bareRule base r).run.Ensures fun c d => c.tokens.Respelled d.tokens := by
  rw [bareRule]
  cases r.kind with
  | optional flags prefixes => exact respelled_optionalRule hr _ flags prefixes
  | positional name => exact (consumed_positionalRule hr _).mono fun _ _ => .of_consumed

/-- Recording tokens writes no tokens. -/
theorem respelled_build (hr : r.Handlers (Handler.Leaves Content.tokens)) (base : Nat) :
    (build base r).rule.run.Ensures fun c d => c.tokens.Respelled d.tokens := by
  have hbare := respelled_bareRule hr base
  rw [rule_build, withCapture]
  split
  · exact hbare
  · rw [Rule.run]
    exact hbare.captureStep_of_leaves (ok_rawHandler (fun _ => Handler.leaves_tokens_of_builtIn) hr)

theorem Of.respelled {calls : List Call} {d : Declaration} (h : d.Of calls)
    (hcalls : ∀ call ∈ calls,
      call.Handlers fun handler => handler.Orderly ∧ handler.Leaves Content.tokens) :
    d.rule.run.Ensures fun c d => c.tokens.Respelled d.tokens := by
  obtain ⟨settings, a, base, r, trueSuffix, falseSuffix, action, hmem, hresolve, happly⟩ := h
  have hr := handlers_resolve (hcalls _ hmem) hresolve
  refine (rule_induction (P := fun rule => rule.Orderly ∧
    rule.run.Ensures fun c d => c.tokens.Respelled d.tokens) happly ?_ ?_).2
  · intro base s hs
    have hs := hs.handlers hr
    have hsound := sound_build (fun _ => Handler.orderly_leaves_of_builtIn) hs base
    exact ⟨(hsound.library.orderlyRoot fun _ => And.left).orderly,
      respelled_build (hs.mono fun _ => And.right) base⟩
  · rintro id on off ⟨hon, hon'⟩ ⟨hoff, hoff'⟩
    have hords : ∀ q ∈ [on, off], q.Orderly :=
      List.forall_mem_cons.mpr ⟨hon, List.forall_mem_singleton.mpr hoff⟩
    have hrules : ∀ q ∈ [on, off], q.run.Ensures fun c d => c.tokens.Respelled d.tokens :=
      List.forall_mem_cons.mpr ⟨hon', List.forall_mem_singleton.mpr hoff'⟩
    refine ⟨fun st matched st' hrun => ?_, ?_⟩
    · rw [Rule.run] at hrun
      exact (Rule.orderly_runAny hords hrun).1
    · rw [Rule.run]
      exact Rule.ensures_runAny hrules hords

end Declaration

/-- So does every rule of an argument parser. -/
theorem ArgumentParser.Declares.respelled {q : ArgumentParser} {calls : List Call}
    (h : q.Declares calls) (hcalls : ∀ call ∈ calls,
      call.Handlers fun handler => handler.Orderly ∧ handler.Leaves Content.tokens) :
    ∀ r ∈ q.compile.rules, r.run.Ensures fun c d => c.tokens.Respelled d.tokens := by
  intro r hr
  rw [h.compile_eq] at hr
  obtain ⟨d, hd, rfl⟩ := h.compiled.1 r hr
  exact hd.respelled hcalls

end TokenGrammar
