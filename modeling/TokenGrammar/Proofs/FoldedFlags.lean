import TokenGrammar.Proofs.FusedValues
import TokenGrammar.Proofs.LetterCase

/-!
# Flags in any case

An argument that ignores case is recognised by a flag in any spelling with the same lower case. In
front of a fused value such a spelling counts only if it differs from the flag in the case of ASCII
letters: then it is stripped off, and the value is next as it is spelled. A spelling that differs in
another way is not taken for the prefix of the flag.

* `ResolvedArgument.FusesFolded`: a flag, another spelling of it and a value behind it;
* `Declaration.yields_recognised`: what the choice between the ways to recognise an argument does;
* `Declaration.folded_ofArgument`: both spellings, by themselves and with a value behind them.
  `Declaration.not_forall_folded_ofArgument`: it takes the ASCII letters.
-/

namespace TokenGrammar

open Rule (AsciiAlike eqIgnoringCase stripPrefix?)

/-- The first prefix that can be stripped off is, and no other one. -/
theorem Rule.stripFirst?_of_earlier {front token value : String} {earlier later : List String}
    {fold : Bool} (hearlier : ∀ p ∈ earlier, stripPrefix? (alike fold) p.toList token.toList = none)
    (hfront : stripPrefix? (alike fold) front.toList token.toList = some value.toList) :
    stripFirst? (earlier ++ front :: later) fold token = some value := by
  have hfirst : firstPrefix? (earlier ++ front :: later) fold token = some front := by
    rw [firstPrefix?, List.find?_eq_some_iff_append]
    refine ⟨by rw [hfront]; rfl, earlier, later, rfl, fun p hp => ?_⟩
    rw [hearlier p hp]
    rfl
  rw [stripFirst?_of_firstPrefix? hfirst, hfront, Option.map_some, String.ofList_toList]

/-- A flag of an argument that ignores case and has values, with a prefix that is made of it, and a
spelling with the same lower case: the token made of the spelling and a value is no flag itself, and
no earlier prefix takes a part of it. -/
structure ResolvedArgument.FusesFolded (r : ResolvedArgument) (flags earlier later : List String)
    (flag tail spelling value : String) : Prop where
  ignoreCase : r.ignoreCase = true
  values : r.nargs ≠ some (.exactly 0)
  kind : r.kind = .optional flags (earlier ++ (flag ++ tail) :: later)
  declared : flag ∈ flags
  lowerCase : Text.toLowerCase spelling = Text.toLowerCase flag
  some_value : value ≠ ""
  no_flag : ¬ r.HasFlag (spelling ++ tail ++ value)
  no_earlier : ∀ front ∈ earlier,
    stripPrefix? eqIgnoringCase front.toList (spelling ++ tail ++ value).toList = none

namespace Declaration

variable {base : Nat} {r resolved : ResolvedArgument} {a : Argument} {settings : Settings}
  {defaults : ArgumentDefaults} {d : Declaration} {flags prefixes earlier later : List String}
  {flag tail spelling value token : String} {rest : List String} {c : Content}

/-- Wherever it is tried, the choice between the ways to recognise an argument does what they
mean. -/
theorem yields_recognised (base : Nat) (r : ResolvedArgument) (flags prefixes : List String)
    (hv : c.tokens.Valid) :
    (Rule.any (base + 4) (recognisers base r flags prefixes)).run.Yields
      (Rule.any (base + 4) (recognisers base r flags prefixes)).Avoids c
      (Rule.denoteAny (recognisers base r flags prefixes) c.view) := by
  have hsound : (Rule.any (base + 4) (recognisers base r flags prefixes)).Sound Handler.BuiltIn base
      (base + 6) := sound_recognised flags prefixes
  exact Rule.Each.yields (meaningful_recognised base r flags prefixes) hsound.apart hv

/-- A flag is consumed. -/
theorem yields_recognised_flag (hkind : r.kind = .optional flags prefixes) (hflag : r.HasFlag token)
    (hv : c.tokens.Valid) (hc : c.view.tokens = token :: rest) (base : Nat) :
    (Rule.any (base + 4) (recognisers base r flags prefixes)).run.Yields
      (Rule.any (base + 4) (recognisers base r flags prefixes)).Avoids c
      (some (c.view.memory.before rest)) := by
  have hyields := yields_recognised base r flags prefixes hv
  rw [ResolvedArgument.HasFlag, hkind] at hflag
  rwa [denoteAny_recognisers base r hc, if_pos hflag] at hyields

/-- A prefix is stripped off, if there is something behind it. -/
theorem yields_recognised_fused (hkind : r.kind = .optional flags prefixes)
    (hflag : ¬ r.HasFlag token) (hvalues : r.nargs ≠ some (.exactly 0))
    (hstrip : Rule.stripFirst? prefixes r.ignoreCase token = some value) (hvalue : value ≠ "")
    (hv : c.tokens.Valid) (hc : c.view.tokens = token :: rest) (base : Nat) :
    (Rule.any (base + 4) (recognisers base r flags prefixes)).run.Yields
      (Rule.any (base + 4) (recognisers base r flags prefixes)).Avoids c
      (some (c.view.memory.before (value :: rest))) := by
  have hyields := yields_recognised base r flags prefixes hv
  rw [ResolvedArgument.HasFlag, hkind] at hflag
  have hfilter : (some value).filter (fun text => decide (text ≠ "")) = some value := by
    simp [Option.filter, hvalue]
  rwa [denoteAny_recognisers base r hc, if_neg hflag, if_neg hvalues, hstrip, hfilter,
    Option.map_some] at hyields

/-- An optional argument with values is recognised first, and then its values are taken. -/
theorem exists_rule_eq (h : ofArgument base a settings defaults = .ok d)
    (hresolve : resolve (a.inherit defaults) settings = .ok resolved)
    (hadjusted : adjusted (a.inherit defaults) resolved = .ok r)
    (hkind : r.kind = .optional flags prefixes) (hvalues : r.nargs ≠ some (.exactly 0)) :
    ∃ collector handler, d.rule = withCapture (base + 7) r (.all (base + 6)
      [.any (base + 4) (recognisers base r flags prefixes), .collect collector handler]) := by
  rw [← ArgumentParser.ofArgument_inherit] at h
  obtain ⟨-, resolved', hresolve', happly⟩ := ofArgument_eq_ok.mp h
  obtain rfl := Except.ok.inj (hresolve.symm.trans hresolve')
  rw [adjusted] at hadjusted
  obtain ⟨haction, s, hadjust, rfl⟩ | ⟨haction, -⟩ := applyAction_eq_ok.mp happly
  · rw [if_neg haction, hadjust] at hadjusted
    obtain rfl := Except.ok.inj hadjusted
    rw [rule_build, bareRule, hkind]
    simp only [optionalRule, setter_eq_collect]
    exact ⟨_, _, rfl⟩
  · rw [if_pos haction] at hadjusted
    obtain rfl := Except.ok.inj hadjusted
    exact absurd rfl hvalues

/-- If an argument ignores case, a spelling of one of its flags with the same lower case is consumed
like the flag. With a value behind it in one token it is stripped off like the prefix of the flag,
if it differs from the flag in the case of ASCII letters only; then the value is next, as it is
spelled. Otherwise the prefix of the flag does not match the token. -/
theorem folded_ofArgument (h : ofArgument base a settings defaults = .ok d)
    (hresolve : resolve (a.inherit defaults) settings = .ok resolved)
    (hadjusted : adjusted (a.inherit defaults) resolved = .ok r)
    (hfuses : r.FusesFolded flags earlier later flag tail spelling value) :
    ∃ front collector handler,
      d.rule = withCapture (base + 7) r (.all (base + 6) [front, .collect collector handler]) ∧
      (∀ (c : Content) (rest : List String), c.tokens.Valid → c.view.tokens = spelling :: rest →
        front.run.Yields front.Avoids c (some (c.view.memory.before rest))) ∧
      (AsciiAlike spelling flag → ∀ (c : Content) (rest : List String), c.tokens.Valid →
        c.view.tokens = (spelling ++ tail ++ value) :: rest →
          front.run.Yields front.Avoids c (some (c.view.memory.before (value :: rest)))) ∧
      (¬ AsciiAlike spelling flag →
        stripPrefix? eqIgnoringCase (flag ++ tail).toList (spelling ++ tail ++ value).toList =
          none) := by
  obtain ⟨collector, handler, hrule⟩ := exists_rule_eq h hresolve hadjusted hfuses.kind hfuses.values
  have hstrip := Rule.stripPrefix?_of_lowerCase hfuses.lowerCase tail value
  refine ⟨_, collector, handler, hrule, ?_, ?_, ?_⟩
  · intro c rest hv hc
    have hflag : r.HasFlag spelling := by
      rw [ResolvedArgument.HasFlag, hfuses.kind]
      simp only [hfuses.ignoreCase, if_true, Rule.isWord, hfuses.lowerCase]
      exact decide_eq_true (List.mem_map_of_mem hfuses.declared)
    exact yields_recognised_flag hfuses.kind hflag hv hc base
  · intro halike c rest hv hc
    rw [if_pos halike] at hstrip
    refine yields_recognised_fused hfuses.kind hfuses.no_flag hfuses.values ?_ hfuses.some_value hv
      hc base
    rw [hfuses.ignoreCase]
    exact Rule.stripFirst?_of_earlier hfuses.no_earlier hstrip
  · intro halike
    rwa [if_neg halike] at hstrip

/-- An option in any case. -/
def anyCase : Argument := { names := ["-o", "--Out"], ignoreCase := some true }

theorem folded_ofArgument_anyCase :
    ∃ d front collector handler r, ofArgument 0 anyCase {} {} = .ok d ∧
      d.rule = withCapture 7 r (.all 6 [front, .collect collector handler]) ∧
      ∀ (c : Content) (rest : List String), c.tokens.Valid →
        c.view.tokens = "--OUT=A.o" :: rest →
          front.run.Yields front.Avoids c (some (c.view.memory.before ("A.o" :: rest))) := by
  obtain ⟨d, hd⟩ : ∃ d, ofArgument 0 anyCase {} {} = .ok d := ⟨_, rfl⟩
  obtain ⟨r, hresolve, hkind, hfold, hnargs⟩ :
      ∃ r, resolve (anyCase.inherit {}) {} = .ok r ∧
        r.kind = .optional ["--Out", "-o"] ["--Out=", "-o"] ∧ r.ignoreCase = true ∧
        r.nargs = none := ⟨_, rfl, rfl, rfl, rfl⟩
  have hfuses : r.FusesFolded ["--Out", "-o"] [] ["-o"] "--Out" "=" "--OUT" "A.o" := by
    refine ⟨hfold, by rw [hnargs]; decide, hkind, by decide, by decide +kernel, by decide, ?_,
      nofun⟩
    rw [ResolvedArgument.HasFlag, hkind, hfold]
    decide +kernel
  obtain ⟨front, collector, handler, hrule, -, hfused, -⟩ :=
    folded_ofArgument hd hresolve rfl hfuses
  exact ⟨d, front, collector, handler, r, hd, hrule, hfused (by decide +kernel)⟩

/-- Capital and small letters beyond ASCII have the same lower case. -/
theorem toLowerCase_acute : Text.toLowerCase "-é" = Text.toLowerCase "-É" := by
  have hcapital : Text.lowerCaseShifts.shift 'É' = 'é' := by
    rw [Text.lowerCaseShifts, Text.RangeTable.ofText_eq rfl]
    decide +kernel
  have hsmall : Text.lowerCaseShifts.shift 'é' = 'é' := by
    rw [Text.lowerCaseShifts, Text.RangeTable.ofText_eq rfl]
    decide +kernel
  have hcapitals : "-É".toList = ['-', 'É'] := by decide +kernel
  have hsmalls : "-é".toList = ['-', 'é'] := by decide +kernel
  rw [Text.toLowerCase, Text.toLowerCase, hcapitals, hsmalls]
  simp [Text.lowerChars, Text.lowerChar, hcapital, hsmall]

/-- A prefix is not stripped off a spelling that differs in a letter beyond ASCII. -/
theorem not_forall_folded_ofArgument :
    ¬ ∀ (base : Nat) (a : Argument) (settings : Settings) (defaults : ArgumentDefaults)
        (d : Declaration) (resolved r : ResolvedArgument) (flags earlier later : List String)
        (flag tail spelling value : String), ofArgument base a settings defaults = .ok d →
      resolve (a.inherit defaults) settings = .ok resolved →
      adjusted (a.inherit defaults) resolved = .ok r →
      r.FusesFolded flags earlier later flag tail spelling value → tail = "" ∨ tail = "=" →
        r.HasFused (spelling ++ tail ++ value) := by
  intro hall
  obtain ⟨d, hd⟩ : ∃ d, ofArgument 0 { names := ["-É"], ignoreCase := some true } {} {} = .ok d :=
    ⟨_, rfl⟩
  obtain ⟨r, hresolve, hkind, hfold, hnargs⟩ : ∃ r,
      resolve (({ names := ["-É"], ignoreCase := some true } : Argument).inherit {}) {} = .ok r ∧
        r.kind = .optional ["-É"] ["-É"] ∧ r.ignoreCase = true ∧ r.nargs = none :=
    ⟨_, rfl, rfl, rfl, rfl⟩
  have hfuses : r.FusesFolded ["-É"] [] [] "-É" "" "-é" "v" := by
    refine ⟨hfold, by rw [hnargs]; decide, hkind, by decide, toLowerCase_acute, by decide, ?_,
      fun _ hfront => absurd hfront List.not_mem_nil⟩
    intro hflag
    rw [ResolvedArgument.HasFlag, hkind, hfold] at hflag
    have hmem : Text.toLowerCase ("-é" ++ "v") ∈ [Text.toLowerCase "-É"] := of_decide_eq_true hflag
    rw [List.mem_singleton, ← toLowerCase_acute] at hmem
    exact Text.toLowerCase_append_ne (by decide) hmem
  have hfused : r.HasFused "-év" :=
    hall 0 _ {} {} d r r ["-É"] [] [] "-É" "" "-é" "v" hd hresolve rfl hfuses (.inl rfl)
  rw [ResolvedArgument.HasFused, hkind, hfold] at hfused
  obtain ⟨-, value, hstrip, -⟩ := hfused
  have hnone : Rule.stripFirst? ["-É"] true "-év" = none := by decide +kernel
  rw [hnone] at hstrip
  cases hstrip

end Declaration

end TokenGrammar
