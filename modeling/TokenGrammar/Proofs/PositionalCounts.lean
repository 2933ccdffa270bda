import TokenGrammar.Proofs.Anonymous
import TokenGrammar.Proofs.Positionals
import TokenGrammar.Proofs.Tallies

/-!
# Counts of positional arguments

A positional argument with a count that does not append takes one value a match. Its limit bounds
the matches, its handler adds the values up, and its validator counts them. All three were made of
the same count, so together they hold it: there are never too many values, and where a parse
succeeds there are not too few.

* `Declaration.OneByOne`: the rule of such an argument. `Declaration.Counted.oneByOne`: actions
  that leave it at the count make it one;
* `TokenParser.Tally`: its kept matches, each with a token and a value of its own.
  `TokenParser.Sound.exists_tally`: there is one for any parse, and it says what stands at the
  destination;
* `ArgumentParser.Declares.tally_positional`: all of this and the validators, for every grammar.
  `ArgumentParser.not_forall_tally_positional`: an action that replaces the count by zero does not
  go together with a positional argument.
-/

namespace TokenGrammar

/-- Where one value is taken, it is that of the token in front. -/
theorem Collector.exists_value {c : Collector} (hbounds : c.bounds = ⟨1, some 1⟩)
    {tokens : List String} (henough : c.enough tokens = true) :
    ∃ token value, tokens.head? = some token ∧ c.filter.value? token = some value ∧
      c.gather 0 tokens = [value] ∧ c.stored (c.gather 0 tokens) = [value] := by
  have hadmits := c.admits_length_gather tokens
  have hleast : c.bounds.least ≤ (c.gather 0 tokens).length := of_decide_eq_true henough
  rw [hbounds] at hleast
  have hlength : (c.gather 0 tokens).length = 1 :=
    Nat.le_antisymm (hadmits.most 1 (by rw [hbounds]; rfl)) hleast
  cases tokens with
  | nil => exact nomatch hlength
  | cons token rest =>
    obtain ⟨haccepts, hsome, -⟩ := hadmits.each 0 token (by omega) rfl
    obtain ⟨value, hvalue⟩ := Option.isSome_iff_exists.mp hsome
    have hgather : c.gather 0 (token :: rest) = [value] := by
      rw [gather_eq_filterMap, hlength]
      simp [hvalue]
    refine ⟨token, value, rfl, by rw [ValueFilter.value?, if_pos haccepts, hvalue], hgather, ?_⟩
    rw [hgather, stored, hbounds]
    cases c.filter.constant <;> rfl

namespace Declaration

variable {base : Nat} {r : ResolvedArgument} {name dest : String} {nargs : Nargs}
  {here next : State}

/-- A rule that takes one value a match: its matches are counted in a limit below the upper bound,
each consumes the token in front, and their values are added up. -/
structure OneByOne (id : Nat) (bounds : Bounds) (filter : ValueFilter) (dest : String)
    (rule : Rule) : Prop where
  counts : rule.run.Ensures fun c d =>
    bounds.most.any (Int64.ofNat · ≤ c.scratch.count id) = false ∧
      d.scratch.count id = c.scratch.count id + 1
  takes : ∀ here next, here.savepoints = [] → rule.alone here = some next →
    ∃ token value, here.tokens.remaining.head? = some token ∧ filter.value? token = some value ∧
      rule.collected dest here = [[value]] ∧
      next.tokens = { here.tokens with cursor := here.tokens.cursor + 1 }
  stores : rule.Folds .extend dest

/-- Recording the tokens makes no difference to what an argument takes. -/
theorem exists_alone_bareRule (hr : r.Handlers Handler.Local) (hst : here.savepoints = [])
    (halone : (build base r).rule.alone here = some next) (dest : String) :
    ∃ mid, (bareRule base r).alone here = some mid ∧
      (build base r).rule.collected dest here = (bareRule base r).collected dest here := by
  have hbuild := sound_build (fun _ => Handler.local_of_builtIn) hr base
  obtain heq | ⟨handler, heq⟩ := rule_build_cases base r
  · rw [heq] at halone ⊢
    exact ⟨next, halone, rfl⟩
  · rw [heq] at hbuild halone ⊢
    obtain ⟨-, hnone⟩ | ⟨mid, -, hmatch, -⟩ := hbuild.library.alone_capture hbuild.apart hst
    · exact nomatch hnone.symm.trans halone
    · exact ⟨mid, hmatch, by rw [Rule.collected]⟩

/-- A positional argument that does not append takes the value of the token in front. -/
theorem collected_positional (hr : r.Handlers Handler.Local) (hkind : r.kind = .positional name)
    (happend : r.append = false) (hdest : destination base r = dest) (hst : here.savepoints = [])
    (halone : (build base r).rule.alone here = some next) :
    ∃ token value, here.tokens.remaining.head? = some token ∧
      (valueFilter r).value? token = some value ∧
      ((collector base r).gather 0 here.tokens.remaining).length = 1 ∧
      (build base r).rule.collected dest here = [[value]] := by
  obtain ⟨mid, hmatch, hcollected⟩ := exists_alone_bareRule hr hst halone dest
  have hbare := sound_bareRule (fun _ => Handler.local_of_builtIn) hr base
  rw [bareRule_eq] at hmatch hcollected hbare
  rw [hbare.library.alone_all hbare.apart hst] at hmatch
  obtain ⟨before, values, hbefore, htaken, hvalues⟩ :=
    Rule.exists_collectedAll (spares_front base r dest) hdest hmatch
  -- what has to match in front leaves the tokens
  have hsame : before.tokens = here.tokens := by
    rw [Rule.aloneAll_eq] at hbefore
    split at hbefore
    · rename_i before' hrun
      obtain rfl := Option.some.inj hbefore
      obtain ⟨-, -, hcontent⟩ := ensures_front_positional hkind base here before' hrun
      exact congrArg Content.tokens hcontent
    · exact nomatch hbefore
  have hbounds : (collector base r).bounds = ⟨1, some 1⟩ := by
    rw [collector, countPerMatch, hkind, happend]
    rfl
  obtain ⟨henough, hstored⟩ := Collector.taken?_eq_some htaken
  rw [hsame] at henough hstored
  obtain ⟨token, value, htoken, hvalue, hgather, hone⟩ := Collector.exists_value hbounds henough
  refine ⟨token, value, htoken, hvalue, by rw [hgather, List.length_singleton], ?_⟩
  rw [hcollected, Rule.collected, hvalues, hstored, hone]

theorem positionalLimit_eq (hnargs : nargs ≠ .exactly 0) :
    positionalLimit false (some nargs) = nargs := by
  rw [positionalLimit]
  exact hnargs

/-- A positional argument with a count that does not append. -/
theorem oneByOne_build (hr : r.Handlers (Handler.Discreet dest)) (hkind : r.kind = .positional name)
    (hcount : r.nargs = some nargs) (hnargs : nargs ≠ .exactly 0) (happend : r.append = false)
    (hnone : r.handler = none) (hdest : destination base r = dest) (hraw : dest ∉ r.rawDest) :
    OneByOne (base + 2) nargs.bounds (valueFilter r) dest (build base r).rule where
  counts := by
    have hleaves := hr.mono fun _ h => h.count (base + 2)
    refine (ensures_build_positional hkind (fun _ _ => rfl) hleaves base).mono ?_
    rintro c d ⟨hready, hcounted⟩
    have hbelow := hready.below
    rw [happend, hcount, positionalLimit_eq hnargs] at hbelow
    exact ⟨hbelow, hcounted.trans (Scratch.count_set_self ..)⟩
  takes := fun here next hst halone => by
    obtain ⟨token, value, htoken, hvalue, hone, hcollected⟩ :=
      collected_positional (hr.mono fun _ => (·.recorded)) hkind happend hdest hst halone
    obtain ⟨-, htokens⟩ := ensures_build_positional hkind (fun _ _ => rfl)
      (hr.mono fun _ => (·.tokens)) base here next (TokenParser.run_of_alone halone)
    refine ⟨token, value, htoken, hvalue, hcollected, htokens.trans ?_⟩
    show { here.tokens with cursor :=
      here.tokens.cursor + ((collector base r).gather 0 here.tokens.remaining).length } = _
    rw [hone]
  stores := by
    have hwriter : writer r = .extend := by
      rw [writer, countPerMatch, accumulates, hkind, happend, hcount, hnone]
      rfl
    rw [← hwriter]
    exact (accounts_build (hr.mono fun _ h => ⟨h.recorded, h.keeps⟩) hnone hraw base).folds

/-- A rule that never matches takes nothing. -/
theorem oneByOne_of_never {id : Nat} {bounds : Bounds} {filter : ValueFilter} {rule : Rule}
    (h : rule.run.Ensures fun _ _ => False) : OneByOne id bounds filter dest rule where
  counts := fun st st' hrun => (h st st' hrun).elim
  takes := fun here next _ halone => (h here next (TokenParser.run_of_alone halone)).elim
  stores := fun st st' _ halone => (h st st' (TokenParser.run_of_alone halone)).elim

/-- What the validators of an argument do after its values are counted. -/
theorem exists_validators_build (base : Nat) (r : ResolvedArgument) (dest : String) :
    ∃ tail, (build base r).validators = countValidators r (destination base r) ++ tail ∧
      (∀ v ∈ tail, ¬ v.Counts dest) ∧ (r.dest.isSome → ∀ v ∈ tail, v ≠ .remove dest) := by
  refine ⟨(r.default.map (Validator.default (destination base r))).toList ++
    ((if r.required then [.require (destination base r) (some (context r (destination base r)))]
      else []) ++ if r.dest.isNone then [.remove (destination base r)] else []), ?_, ?_, ?_⟩
  · simp only [build, destination, List.append_assoc]
  · cases r.default <;> cases r.required <;> cases r.dest <;> simp [Validator.Counts]
  · cases r.default <;> cases r.required <;> cases r.dest <;> simp

variable {a : Argument} {settings : Settings} {resolved : ResolvedArgument} {d : Declaration}

/-- A positional argument with a count that does not append, and an action that leaves it at the
count: it is built like that, or as a flag and its opposite, which never match and count nothing. -/
theorem ofArgument_positional (h : ofArgument base a settings {} = .ok d)
    (hresolve : resolve a settings = .ok resolved) (hkind : resolved.kind = .positional name)
    (haction : a.action.getD .store ∈ [.store, .msvcFlag, .msvcFlagWithValue])
    (ha : a.Handlers Handler.Orderly) (dest : String) :
    d = build base resolved ∨
      (d.rule.run.Ensures fun _ _ => False) ∧ ∀ v ∈ d.validators, ¬ v.Counts dest := by
  obtain ⟨-, _, hresolve', happly⟩ := ofArgument_eq_ok.mp h
  obtain rfl := Except.ok.inj (hresolve.symm.trans hresolve')
  simp only [List.mem_cons, List.not_mem_nil, or_false] at haction
  obtain haction | haction | haction := haction
  · rw [haction] at happly
    exact .inl (Except.ok.inj happly).symm
  · rw [haction] at happly
    obtain rfl := Except.ok.inj happly
    refine .inr ⟨ensures_flagPair_positional hkind (handlers_resolve ha hresolve) base _ _, ?_⟩
    have hvariant (base : Nat) (value : Bool) (suffix : String) :
        ∀ v ∈ (build base (flagVariant resolved value suffix)).validators, ¬ v.Counts dest := by
      obtain ⟨tail, heq, htail, -⟩ :=
        exists_validators_build base (flagVariant resolved value suffix) dest
      rw [heq]
      exact htail
    exact List.forall_mem_append.mpr ⟨hvariant _ _ _, hvariant _ _ _⟩
  · rw [haction] at happly
    obtain rfl := Except.ok.inj happly
    have hsame : colonKind resolved.kind = resolved.kind := by
      rw [hkind]
      rfl
    exact .inl (by rw [hsame])

/-- A positional argument with a count that does not append, has no handler of its own and an action
that leaves it at the count, and what it is resolved to. -/
structure Counted (base : Nat) (settings : Settings) (a : Argument) (resolved : ResolvedArgument)
    (nargs : Nargs) (dest : String) : Prop where
  resolves : resolve a settings = .ok resolved
  positional : ∃ name, resolved.kind = .positional name
  count : a.nargs = some nargs
  nonzero : nargs ≠ .exactly 0
  single : a.append = false
  action : a.action.getD .store ∈ [.store, .msvcFlag, .msvcFlagWithValue]
  handler : a.handler = none
  dest_eq : destination base resolved = dest
  uncaptured : dest ∉ a.rawDest.getD []

/-- Such an argument takes one value a match, and counts the values before it does anything else
with them, if it matches at all. -/
theorem Counted.oneByOne (hcounted : Counted base settings a resolved nargs dest)
    (h : ofArgument base a settings {} = .ok d) (ha : a.Handlers (Handler.Discreet dest)) :
    OneByOne (base + 2) nargs.bounds (valueFilter resolved) dest d.rule ∧
      (((d.rule.run.Ensures fun _ _ => False) ∧ ∀ v ∈ d.validators, ¬ v.Counts dest) ∨
        ∃ context tail, d.validators = .count dest nargs.bounds context :: tail ∧
          (∀ v ∈ tail, ¬ v.Counts dest) ∧
            (resolved.dest.isSome → ∀ v ∈ tail, v ≠ .remove dest)) := by
  obtain ⟨hresolve, ⟨name, hkind⟩, hcount, hnargs, hsingle, haction, hhandler, hdest, hraw⟩ :=
    hcounted
  obtain rfl | ⟨hnever, hnone⟩ := ofArgument_positional h hresolve hkind haction
    (ha.mono fun _ => (·.orderly)) dest
  · have hr := handlers_resolve ha hresolve
    obtain ⟨regexp, kinded, -, -, rfl⟩ := resolve_eq_ok.mp hresolve
    obtain ⟨tail, htail, hcounts, hremove⟩ :=
      exists_validators_build base (ofKinded a settings regexp kinded) dest
    refine ⟨oneByOne_build hr hkind hcount hnargs hsingle hhandler hdest hraw,
      .inr ⟨some name, tail, ?_, hcounts, hremove⟩⟩
    have hone : countValidators (ofKinded a settings regexp kinded)
        (destination base (ofKinded a settings regexp kinded)) =
          [.count dest nargs.bounds (some name)] := by
      have hsingle' : (ofKinded a settings regexp kinded).append = false := hsingle
      have hcount' : (ofKinded a settings regexp kinded).nargs = some nargs := hcount
      rw [countValidators, hkind, hsingle', hcount', hdest]
    rw [htail, hone, List.singleton_append]
  · exact ⟨oneByOne_of_never hnever, .inl ⟨hnever, hnone⟩⟩

/-- The limits of an argument have numbers of its own. -/
theorem counter?_build (base : Nat) (r : ResolvedArgument) :
    (build base r).rule.Each fun q => ∀ id ∈ q.counter?, id = base + 2 := by
  have hnone {q : Rule} (h : q.counter? = none) : ∀ id ∈ q.counter?, id = base + 2 := by
    simp [h]
  have hrecognisers (flags prefixes : List String) : ∀ q ∈ recognisers base r flags prefixes,
      q.Each fun q => ∀ id ∈ q.counter?, id = base + 2 := by
    intro q hq
    obtain rfl | rfl := eq_of_mem_recognisers hq
    · simp [Rule.oneOf, Rule.counter?]
    · simp [Rule.counter?]
  have hfront : ∀ q ∈ front base r, q.Each fun q => ∀ id ∈ q.counter?, id = base + 2 := by
    rw [front]
    cases r.kind with
    | optional flags prefixes =>
      exact List.forall_mem_singleton.mpr (.intro (hnone rfl) (hrecognisers flags prefixes))
    | positional name => simp [Rule.limiter, Rule.counter?]
  have hbare : (bareRule base r).Each fun q => ∀ id ∈ q.counter?, id = base + 2 := by
    rw [bareRule_eq, Rule.each_all]
    refine ⟨hnone rfl, List.forall_mem_append.mpr ⟨hfront, List.forall_mem_singleton.mpr ?_⟩⟩
    exact (Rule.each_iff_of_subrules rfl).mpr (hnone rfl)
  obtain heq | ⟨handler, heq⟩ := rule_build_cases base r
  · rwa [heq]
  · rw [heq]
    exact (Rule.each_capture ..).mpr ⟨hnone rfl, hbare⟩

theorem counter?_ofArgument (h : ofArgument base a settings {} = .ok d) :
    d.rule.Each fun q => ∀ id ∈ q.counter?, base ≤ id ∧ id < base + width := by
  obtain ⟨-, resolved, -, happly⟩ := ofArgument_eq_ok.mp h
  have hbuild (lo : Nat) (s : ResolvedArgument) (hlo : base ≤ lo ∧ lo ≤ base + buildWidth) :
      (build lo s).rule.Each fun q => ∀ id ∈ q.counter?, base ≤ id ∧ id < base + width := by
    refine (counter?_build lo s).mono fun q hq id hid => ?_
    rw [hq id hid, width]
    simp only [buildWidth] at hlo ⊢
    omega
  obtain ⟨s, -, rfl⟩ | rfl := applyAction_cases happly
  · exact hbuild base s ⟨Nat.le_refl base, Nat.le_add_right base _⟩
  · refine (Rule.each_any ..).mpr ⟨fun _ hid => absurd hid (Option.not_mem_none _), ?_⟩
    refine List.forall_mem_cons.mpr ⟨hbuild base _ ?_,
      List.forall_mem_singleton.mpr (hbuild (base + buildWidth) _ ?_)⟩
    · exact ⟨Nat.le_refl base, Nat.le_add_right base _⟩
    · exact ⟨Nat.le_add_right base _, Nat.le_refl _⟩

end Declaration

/-! ## Kept matches -/

namespace TokenParser

/-- The kept matches of a rule that takes one value a match: each consumes the token of its own,
these are tokens of the input, in their order, and there are no more of them than the bound. -/
structure Tally (rule : Rule) (filter : ValueFilter) (bounds : Bounds) (tokens : List String)
    (kept : List State) (own : List String) (values : List Value) : Prop where
  single : ∀ here ∈ kept, ∃ next, rule.run here = .ok true next ∧
    next.tokens = { here.tokens with cursor := here.tokens.cursor + 1 }
  most : ∀ most ∈ bounds.most, kept.length ≤ most
  starts : kept.map (·.tokens.remaining.head?) = own.map some
  order : own.Sublist tokens
  converted : own.map filter.value? = values.map some

variable {p : TokenParser} {mode : Mode} {rule : Rule} {i rounds id : Nat} {st st' : State}
  {filter : ValueFilter} {bounds : Bounds} {dest : String} {kept : List State}
  {tokens own : List String} {values : List Value} {unparsed : List String}

theorem Tally.length_eq (h : Tally rule filter bounds tokens kept own values) :
    values.length = kept.length := by
  have hown := congrArg List.length h.starts
  have hvalues := congrArg List.length h.converted
  simp only [List.length_map] at hown hvalues
  rw [hown, hvalues]

/-- Where each match takes a token and its value, all of them take a row of tokens and their
values. -/
theorem exists_own (h : ∀ here ∈ kept, ∃ token value, here.tokens.remaining.head? = some token ∧
      filter.value? token = some value ∧ rule.collected dest here = [[value]]) :
    ∃ (own : List String) (values : List Value),
      kept.map (·.tokens.remaining.head?) = own.map some ∧
      kept.filterMap (·.tokens.remaining.head?) = own ∧ own.map filter.value? = values.map some ∧
      kept.flatMap (rule.collected dest) = values.map ([·]) := by
  induction kept with
  | nil => exact ⟨[], [], rfl, rfl, rfl, rfl⟩
  | cons here kept ih =>
    obtain ⟨⟨token, value, htoken, hvalue, hcollected⟩, hrest⟩ := List.forall_mem_cons.mp h
    obtain ⟨own, values, hstarts, hown, hvalues, hall⟩ := ih hrest
    refine ⟨token :: own, value :: values, ?_, ?_, ?_, ?_⟩
    · rw [List.map_cons, htoken, hstarts, List.map_cons]
    · rw [List.filterMap_cons, htoken, hown]
    · rw [List.map_cons, hvalue, hvalues, List.map_cons]
    · rw [List.flatMap_cons, hcollected, hall, List.map_cons, List.singleton_append]

/-- The tally of a rule that takes one value a match, and what its kept matches leave at the
destination. -/
theorem Sound.exists_tally (h : p.Sound) (hrule : p.rules[i]? = some rule)
    (hone : Declaration.OneByOne id bounds filter dest rule)
    (hbounds : ∀ most ∈ bounds.most, most < 2 ^ 64)
    (hrespelled : ∀ r ∈ p.rules, r.run.Ensures fun c d => c.tokens.Respelled d.tokens)
    (hcounts : ∀ j other, j ≠ i → p.rules[j]? = some other →
      other.run.Ensures fun c d => d.scratch.count id = c.scratch.count id)
    (hkeeps : ∀ j other, j ≠ i → p.rules[j]? = some other → ∀ st st', st.savepoints = [] →
      other.alone st = some st' → st'.attribute? dest = st.attribute? dest)
    (hunknown : dest ∉ mode.unknownDest) (hst : st.savepoints = [])
    (hzero : st.scratch.count id = 0) (hmissing : st.attribute? dest = none)
    (hrun : p.consumeAll mode rounds st = .ok unparsed st') :
    ∃ own values,
      Tally rule filter bounds st.tokens.remaining (p.kept mode i rounds st) own values ∧
        st'.attribute? dest = if own = [] then none else some (.list values) := by
  have htakes : ∀ here ∈ p.kept mode i rounds st, ∃ token value,
      here.tokens.remaining.head? = some token ∧ filter.value? token = some value ∧
        rule.collected dest here = [[value]] := by
    intro here hhere
    obtain ⟨hsps, -, next, halone⟩ := h.alone_of_mem_kept hrule hst hhere
    obtain ⟨token, value, htoken, hvalue, hcollected, -⟩ := hone.takes here next hsps halone
    exact ⟨token, value, htoken, hvalue, hcollected⟩
  obtain ⟨own, values, hstarts, hown, hvalues, hcollected⟩ := exists_own htakes
  refine ⟨own, values, ⟨fun here hhere => ?_, fun most hmost => ?_, hstarts, ?_, hvalues⟩, ?_⟩
  · obtain ⟨hsps, -, next, halone⟩ := h.alone_of_mem_kept hrule hst hhere
    obtain ⟨-, -, -, -, -, htokens⟩ := hone.takes here next hsps halone
    exact ⟨next, run_of_alone halone, htokens⟩
  · have hbelow : rule.run.Ensures fun c d => ¬ Int64.ofNat most ≤ c.scratch.count id ∧
        d.scratch.count id = c.scratch.count id + 1 := by
      refine hone.counts.mono fun c d hcd => ⟨fun hle => ?_, hcd.2⟩
      have hany := hcd.1
      rw [Option.mem_def.mp hmost, Option.any_some, decide_eq_false_iff_not] at hany
      exact hany hle
    exact h.length_kept_le hrule (hbounds most hmost) hbelow hcounts mode rounds hst hzero
  · rw [← hown]
    exact h.sublist_kept hrule hrespelled mode rounds hst
  · have hflat : (values.map ([·])).flatten = values := by
      rw [← List.flatMap_def, List.flatMap_singleton']
    rw [h.attribute_consumeAll hrule hone.stores hkeeps hunknown hst hrun, hmissing, hcollected,
      Handler.foldl_store_extend, hflat]
    cases own <;> cases values <;> simp at hvalues ⊢

/-- What the kept matches leave at the destination is not too much. -/
theorem Tally.few (h : Tally rule filter bounds tokens kept own values)
    (hattribute : st.attribute? dest = if own = [] then none else some (.list values)) :
    ∀ value, st.attributes.get? dest = some value →
      ∀ most ∈ bounds.most, value.toList.length ≤ most := by
  intro value hvalue most hmost
  rw [show st.attributes.get? dest = _ from hattribute] at hvalue
  split at hvalue
  · exact nomatch hvalue
  · obtain rfl := Option.some.inj hvalue
    exact h.length_eq ▸ h.most most hmost

/-- A rule that never matches is never kept. -/
theorem Sound.kept_of_never (h : p.Sound) (hrule : p.rules[i]? = some rule)
    (hnever : rule.run.Ensures fun _ _ => False) (hst : st.savepoints = []) :
    p.kept mode i rounds st = [] := by
  refine List.eq_nil_iff_forall_not_mem.mpr fun here hhere => ?_
  obtain ⟨-, -, next, halone⟩ := h.alone_of_mem_kept hrule hst hhere
  exact hnever here next (run_of_alone halone)

theorem Tally.own_eq_nil_iff (h : Tally rule filter bounds tokens kept own values) :
    own = [] ↔ kept = [] := by
  have hlength := congrArg List.length h.starts
  simp only [List.length_map] at hlength
  rw [← List.length_eq_zero_iff, ← hlength, List.length_eq_zero_iff]

/-- The rule of an argument between others, and the other rules. -/
theorem getElem?_between (front : TokenParser) (d : Declaration) (back : TokenParser) :
    (front.between d back).rules[front.rules.length]? = some d.rule := by
  simp [between]

theorem mem_of_between {front back : TokenParser} {d : Declaration} {j : Nat} {other : Rule}
    (hj : j ≠ front.rules.length) (h : (front.between d back).rules[j]? = some other) :
    other ∈ front.rules ∨ other ∈ back.rules := by
  obtain hlt | hlt := Nat.lt_or_gt_of_ne hj
  · rw [between, List.getElem?_append_left hlt] at h
    exact .inl (List.mem_of_getElem? h)
  · obtain ⟨k, rfl⟩ := Nat.exists_eq_add_of_lt hlt
    rw [between, Nat.add_assoc, List.getElem?_append_right (Nat.le_add_right _ _),
      Nat.add_sub_cancel_left, List.getElem?_cons_succ] at h
    exact .inr (List.mem_of_getElem? h)

/-! ## Validators -/

/-- Where a parse succeeds, so do its validators. -/
theorem Sound.validate_of_parse (h : p.Sound) {seed : Option Namespace} {ns : Namespace}
    {skipped : List String}
    (hrun : p.consumeAll mode tokens.length (.start tokens seed) = .ok unparsed st)
    (hparse : p.parse mode tokens seed = .ok (ns, skipped)) :
    validate mode p.validators st.attributes = .ok ns := by
  rw [h.parse_of_consumeAll hrun] at hparse
  split at hparse
  · cases hparse
  · cases hresult : validate mode p.validators st.attributes with
    | error e =>
      rw [hresult] at hparse
      cases hparse
    | ok ns' =>
      rw [hresult] at hparse
      exact congrArg Except.ok (Prod.mk.inj (Except.ok.inj hparse)).1

theorem Sound.validate_of_parseStrict (h : p.Sound) {seed : Option Namespace} {ns : Namespace}
    (hrun : p.consumeAll .strict tokens.length (.start tokens seed) = .ok unparsed st)
    (hparse : p.parseStrict tokens seed = .ok ns) :
    validate .strict p.validators st.attributes = .ok ns := by
  rw [parseStrict] at hparse
  cases hresult : p.parse .strict tokens seed with
  | error e =>
    rw [hresult] at hparse
    cases hparse
  | ok outcome =>
    rw [hresult] at hparse
    obtain rfl := Except.ok.inj hparse
    exact h.validate_of_parse hrun hresult

/-- Where a parse fails with an error of validators, the validators do. -/
theorem Sound.validate_of_parse_error (h : p.Sound) {seed : Option Namespace} {e : Error}
    (he : e.OfValidator)
    (hrun : p.consumeAll mode tokens.length (.start tokens seed) = .ok unparsed st)
    (hparse : p.parse mode tokens seed = .error e) :
    validate mode p.validators st.attributes = .error e := by
  rw [h.parse_of_consumeAll hrun] at hparse
  split at hparse
  · obtain rfl := Except.error.inj hparse
    exact he.elim
  · cases hresult : validate mode p.validators st.attributes with
    | error e' =>
      rw [hresult] at hparse
      exact congrArg Except.error (Except.error.inj hparse)
    | ok ns' =>
      rw [hresult] at hparse
      cases hparse

/-- Where the validators do not complain about too many values, no parse does. -/
theorem Sound.parse_ne_tooManyValues (h : p.Sound) {seed : Option Namespace}
    (hrun : p.consumeAll mode tokens.length (.start tokens seed) = .ok unparsed st) {most : Nat}
    {items : List Value} {context : Option String}
    (hvalidate : validate mode p.validators st.attributes ≠
      .error (.tooManyValues dest most items context)) :
    p.parse mode tokens seed ≠ .error (.tooManyValues dest most items context) :=
  fun hparse => hvalidate (h.validate_of_parse_error trivial hrun hparse)

variable {ns ns' : Namespace} {tail : List Validator} {context : Option String}

/-- Values that are counted and are not more than the bound are not too many afterwards either. -/
theorem validate_count_ne_tooManyValues (htail : ∀ v ∈ tail, ¬ v.Counts dest)
    (hfew : ∀ value, ns.get? dest = some value →
      ∀ most ∈ bounds.most, value.toList.length ≤ most)
    (most : Nat) (items : List Value) (context' : Option String) :
    validate mode (.count dest bounds context :: tail) ns ≠
      .error (.tooManyValues dest most items context') := by
  rw [validate]
  split
  · exact validate_ne_tooManyValues htail _ most items context'
  · rename_i e happly
    split
    · rintro ⟨⟩
      obtain ⟨_, _, value, heq, hvalue, hmost, hlt⟩ := Validator.apply_tooMany happly
      obtain ⟨-, rfl, -⟩ := Validator.count.inj heq
      exact absurd (hfew value hvalue most hmost) (Nat.not_le.mpr hlt)
    · exact validate_ne_tooManyValues htail _ most items context'

/-- Values that a strict parse has counted are in bounds. -/
theorem bounds_of_validate_count {value : Value} (hvalue : ns.get? dest = some value)
    (h : validate .strict (.count dest bounds context :: tail) ns = .ok ns') :
    (bounds.least ≤ value.toList.length ∧ ∀ most ∈ bounds.most, value.toList.length ≤ most) ∧
      validate .strict tail ns = .ok ns' := by
  rw [validate, Validator.apply_count hvalue] at h
  cases hcheck : Validator.checkCount dest bounds context value.toList with
  | ok u =>
    rw [hcheck] at h
    exact ⟨Validator.checkCount_eq_ok.mp hcheck, h⟩
  | error e =>
    rw [hcheck] at h
    simp only [Except.map, Mode.aborts_strict, if_true] at h
    cases h

/-- What is about another attribute does not count the values. -/
theorem not_counts_of_ne {vs : List Validator} (h : ∀ v ∈ vs, v.dest ≠ dest) :
    ∀ v ∈ vs, ¬ v.Counts dest := by
  intro v hv hcounts
  cases v with
  | count dest' bounds context => exact h _ hv hcounts
  | _ => exact hcounts

variable {front back : TokenParser} {d : Declaration}

/-- The values of an argument that nothing else has to do with are not too many in any parse, if
they are not before they are counted, or if nothing counts them. -/
theorem validate_between_ne_tooManyValues (hfront : front.Ignores dest) (hback : back.Ignores dest)
    (hown : (∀ v ∈ d.validators, ¬ v.Counts dest) ∨ ∃ context tail,
      d.validators = .count dest bounds context :: tail ∧ ∀ v ∈ tail, ¬ v.Counts dest)
    (hfew : ∀ value, ns.get? dest = some value →
      ∀ most ∈ bounds.most, value.toList.length ≤ most)
    (most : Nat) (items : List Value) (context' : Option String) :
    validate mode (front.between d back).validators ns ≠
      .error (.tooManyValues dest most items context') := by
  have hbefore : validate mode front.validators ns ≠
      .error (.tooManyValues dest most items context') :=
    validate_ne_tooManyValues (not_counts_of_ne hfront.2) ns most items context'
  have hafter := not_counts_of_ne hback.2
  show validate mode (front.validators ++ (d.validators ++ back.validators)) ns ≠ _
  rw [validate_append]
  cases hmid : validate mode front.validators ns with
  | error e =>
    rw [hmid] at hbefore
    exact hbefore
  | ok mid =>
    show validate mode (d.validators ++ back.validators) mid ≠ _
    obtain hown | ⟨context, tail, heq, htail⟩ := hown
    · exact validate_ne_tooManyValues (List.forall_mem_append.mpr ⟨hown, hafter⟩) mid most items
        context'
    · rw [heq]
      refine validate_count_ne_tooManyValues (List.forall_mem_append.mpr ⟨htail, hafter⟩) ?_ most
        items context'
      rwa [get?_validate (fun v hv => Validator.writes?_ne (hfront.2 v hv)) hmid]

/-- The values of an argument that nothing else has to do with are in bounds where a strict parse
succeeds, and unless they are removed they are part of the result. -/
theorem bounds_of_validate_between (hfront : front.Ignores dest) (hback : back.Ignores dest)
    (hown : d.validators = .count dest bounds context :: tail) {value : Value}
    (hvalue : ns.get? dest = some value)
    (h : validate .strict (front.between d back).validators ns = .ok ns') :
    (bounds.least ≤ value.toList.length ∧ ∀ most ∈ bounds.most, value.toList.length ≤ most) ∧
      ((∀ v ∈ tail, v ≠ .remove dest) → ns'.get? dest = some value) := by
  have hvalidate : validate .strict
      (front.validators ++ (d.validators ++ back.validators)) ns = .ok ns' := h
  rw [validate_append] at hvalidate
  obtain ⟨mid, hmid, hvalidate⟩ := Declaration.bind_eq_ok.mp hvalidate
  have hsame : mid.get? dest = some value :=
    (get?_validate (fun v hv => Validator.writes?_ne (hfront.2 v hv)) hmid).trans hvalue
  rw [hown] at hvalidate
  obtain ⟨hbounds, hrest⟩ := bounds_of_validate_count hsame hvalidate
  refine ⟨hbounds, fun htail => get?_validate_of_some ?_ hsame hrest⟩
  refine List.forall_mem_append.mpr ⟨htail, fun v hv => ?_⟩
  rintro rfl
  exact hback.2 _ hv rfl

end TokenParser

/-! ## Grammars -/

theorem Call.length_compile {number : Nat} {calls : List Call} {p : TokenParser}
    (h : compile number calls = .ok p) : p.rules.length = (arguments calls).length := by
  induction calls generalizing number p with
  | nil =>
    cases h
    rfl
  | cons call calls ih =>
    cases call with
    | argument settings a =>
      obtain ⟨d, rest, -, hrest, rfl⟩ := compile_argument.mp h
      exact congrArg (· + 1) (ih hrest)
    | default dest value =>
      obtain ⟨rest, hrest, rfl⟩ := compile_default.mp h
      have hlength := ih hrest
      exact hlength

namespace ArgumentParser

variable {q : ArgumentParser} {calls before after : List Call} {settings : Settings} {a : Argument}
  {i : Nat} {dest : String}

/-- The grammar of an argument between other calls. -/
theorem Declares.exists_between (h : q.Declares (before ++ .argument settings a :: after))
    (hi : (Call.arguments before).length = i) :
    ∃ front d back, Call.compile 0 before = .ok front ∧
      Declaration.ofArgument (i * Declaration.width) a settings {} = .ok d ∧
      Call.compile (i + 1) after = .ok back ∧ front.rules.length = i ∧
      q.compile = front.between d back := by
  obtain ⟨front, rest, hfront, hrest, heq⟩ := Call.compile_append.mp h.compile_calls
  obtain ⟨d, back, hd, hback, rfl⟩ := Call.compile_argument.mp hrest
  have hlength : front.rules.length = i := (Call.length_compile hfront).trans hi
  rw [Nat.zero_add, hlength] at hd hback
  exact ⟨front, d, back, hfront, hd, hback, hlength, h.compile_eq.trans heq⟩

/-- The rules of a grammar with discreet handlers. -/
theorem Declares.discreet (h : q.Declares calls)
    (hhandlers : ∀ call ∈ calls, call.Handlers (Handler.Discreet dest)) :
    ∀ r ∈ q.compile.rules, r.Library (Handler.Discreet dest) ∧ r.Apart := by
  rw [h.compile_eq]
  exact (h.built hhandlers).sound fun _ hb => Handler.discreet_of_builtIn hb dest

theorem Declares.sound_of_discreet (h : q.Declares calls)
    (hhandlers : ∀ call ∈ calls, call.Handlers (Handler.Discreet dest)) : q.compile.Sound := by
  intro r hr
  obtain ⟨hlibrary, hapart⟩ := h.discreet hhandlers r hr
  exact ⟨hlibrary.of_handlers fun _ hh => hh.recorded, hapart⟩

/-- A rule without the destination leaves it as it is. -/
theorem Declares.attribute?_of_alone (h : q.Declares calls)
    (hhandlers : ∀ call ∈ calls, call.Handlers (Handler.Discreet dest)) {rule : Rule}
    (hrule : rule ∈ q.compile.rules) (hspares : rule.Spares dest) {st st' : State}
    (hst : st.savepoints = []) (halone : rule.alone st = some st') :
    st'.attribute? dest = st.attribute? dest := by
  obtain ⟨hlibrary, hapart⟩ := h.discreet hhandlers rule hrule
  have hkeeps := hlibrary.of_handlers fun _ hh => And.intro hh.recorded hh.keeps
  exact hkeeps.attribute?_of_alone hapart hspares hst halone

/-- The other arguments do not count in the limit of an argument. -/
theorem Declares.count_eq (h : q.Declares calls)
    (hhandlers : ∀ call ∈ calls, call.Handlers (Handler.Discreet dest)) {j : Nat} {other : Rule}
    (hj : j ≠ i) (hother : q.compile.rules[j]? = some other) :
    other.run.Ensures fun c d => d.scratch.count (i * Declaration.width + 2) =
      c.scratch.count (i * Declaration.width + 2) := by
  have hlibrary := (h.discreet hhandlers other (List.mem_of_getElem? hother)).1
  rw [h.compile_eq] at hother
  obtain ⟨hnone, -⟩ | ⟨settings, a, d, -, hd, hrule⟩ := Call.getElem?_compile h.compile_calls j
  · exact nomatch hnone.symm.trans hother
  obtain rfl := Option.some.inj (hrule.symm.trans hother)
  refine (hlibrary.of_handlers fun _ hh => ⟨hh.orderly, hh.count _⟩).count_eq ?_
  refine (Declaration.counter?_ofArgument hd).mono fun r hr hmem => hj ?_
  -- the numbers of different arguments are in different ranges
  have hrange := hr _ hmem
  simp only [Declaration.width, Declaration.buildWidth] at hrange
  omega

open TokenParser in
/-- The count of a positional argument, if nothing else has to do with its destination. In any parse
no more of its matches are kept than the count admits, each of one token, and there are never too
many values. Where a strict parse succeeds, there are not too few either, unless there are none, and
they are those of the tokens of these matches, in order. Other handlers may be the user's own, if
they write attributes through the operations of the state and leave this one alone. -/
theorem Declares.tally_positional (h : q.Declares (before ++ .argument settings a :: after))
    (hi : (Call.arguments before).length = i) {resolved : ResolvedArgument} {nargs : Nargs}
    (ha : Declaration.Counted (i * Declaration.width) settings a resolved nargs dest)
    (hbefore : ∀ p, Call.compile 0 before = .ok p → p.Ignores dest)
    (hafter : ∀ p, Call.compile (i + 1) after = .ok p → p.Ignores dest)
    (hhandlers : ∀ call ∈ before ++ .argument settings a :: after,
      call.Handlers (Handler.Discreet dest))
    {mode : Mode} (hunknown : dest ∉ mode.unknownDest) {seed : Option Namespace}
    (hseed : (seed.getD .empty).get? dest = none) (tokens : List String) :
    ∃ rule own values unparsed st, q.compile.rules[i]? = some rule ∧
      Tally rule (Declaration.valueFilter resolved) nargs.bounds tokens
        (q.compile.kept mode i tokens.length (.start tokens seed)) own values ∧
      q.compile.consumeAll mode tokens.length (.start tokens seed) = .ok unparsed st ∧
      st.attribute? dest = (if own = [] then none else some (.list values)) ∧
      (∀ most items context, q.compile.parse mode tokens seed ≠
        .error (.tooManyValues dest most items context)) ∧
      (mode = .strict → own ≠ [] → ∀ ns, (q.parse tokens seed).1 = .ok ns →
        nargs.bounds.least ≤ values.length ∧ (∀ most ∈ nargs.bounds.most, values.length ≤ most) ∧
          (resolved.dest.isSome → ns.get? dest = some (.list values))) := by
  obtain ⟨front, d, back, hfront, hd, hback, hlength, hcompile⟩ := h.exists_between hi
  have hig := hbefore front hfront
  have hig' := hafter back hback
  have hown : (Call.argument settings a).Handlers (Handler.Discreet dest) :=
    hhandlers _ (List.mem_append_right before List.mem_cons_self)
  obtain ⟨hone, hvalidators⟩ := ha.oneByOne hd hown
  have hsound := h.sound_of_discreet hhandlers
  have hrule : q.compile.rules[i]? = some d.rule := by
    rw [hcompile, ← hlength]
    exact getElem?_between front d back
  have hrespelled := h.respelled fun call hcall =>
    (hhandlers call hcall).mono fun _ hh => ⟨hh.orderly, hh.tokens⟩
  have hspares : ∀ j other, j ≠ i → q.compile.rules[j]? = some other → other.Spares dest := by
    intro j other hj hother
    rw [hcompile] at hother
    rw [← hlength] at hj
    exact (mem_of_between hj hother).elim (hig.1 other) (hig'.1 other)
  have hst : (State.start tokens seed).savepoints = [] := rfl
  obtain ⟨unparsed, st, hrun, -⟩ :=
    hsound.scan mode hst (Nat.le_of_eq (TokenBuffer.size_ofTokens tokens))
  obtain ⟨own, values, htally, hattribute⟩ := hsound.exists_tally hrule hone nargs.most_lt
    hrespelled (fun j other hj => h.count_eq hhandlers hj)
    (fun j other hj hother _ _ => h.attribute?_of_alone hhandlers (List.mem_of_getElem? hother)
      (hspares j other hj hother)) hunknown hst rfl hseed hrun
  refine ⟨d.rule, own, values, unparsed, st, hrule, htally, hrun, hattribute, ?_, ?_⟩
  · intro most items context
    refine hsound.parse_ne_tooManyValues hrun ?_
    rw [hcompile]
    refine validate_between_ne_tooManyValues hig hig' (hvalidators.imp And.right
      fun ⟨context, tail, heq, htail, _⟩ => ⟨context, tail, heq, htail⟩) ?_ most items context
    exact htally.few hattribute
  · rintro rfl hown ns hns
    have hvalidate := hsound.validate_of_parseStrict hrun hns
    rw [hcompile] at hvalidate
    obtain ⟨hnever, -⟩ | ⟨context, tail, heq, -, hremove⟩ := hvalidators
    · exact absurd (htally.own_eq_nil_iff.mpr (hsound.kept_of_never hrule hnever hst)) hown
    · rw [if_neg hown] at hattribute
      obtain ⟨⟨hleast, hmost⟩, hresult⟩ :=
        bounds_of_validate_between hig hig' heq hattribute hvalidate
      exact ⟨hleast, hmost, fun hsome => hresult (hremove hsome)⟩

/-- Two names. -/
def couple : Argument := { names := ["couple"], nargs := some (.exactly 2) }

/-- A flag and two names. -/
def verboseCouple : Except GrammarError ArgumentParser := do
  let (_, p) ← ({} : ArgumentParser).addArgument verbose
  let (_, q) ← p.addArgument couple
  return q

/-- A flag between the two names makes no difference. -/
theorem Declares.tally_positional_couple :
    ∃ q rule filter own, verboseCouple = .ok q ∧ q.compile.rules[1]? = some rule ∧
      TokenParser.Tally rule filter ⟨2, some 2⟩ ["a", "-v", "b"]
        (q.compile.kept .strict 1 3 (.start ["a", "-v", "b"] none)) own
        [.str "a", .str "b"] ∧
      (q.parse ["a", "-v", "b"] none).1 =
        .ok (.ofList [("couple", .list [.str "a", .str "b"]), ("v", .bool true)]) := by
  have heval : verboseCouple.toOption.map (fun q => ((q.parse ["a", "-v", "b"] none).1,
      (q.compile.kept .strict 1 3 (.start ["a", "-v", "b"] none)).length)) =
      some (.ok (.ofList [("couple", .list [.str "a", .str "b"]), ("v", .bool true)]), 2) := by
    decide +kernel
  have hverbose : (Declaration.resolve (verbose.inherit {}) {}).map
      (fun r => (r.dest, r.rawDest)) = .ok (some "v", []) := by
    decide +kernel
  cases hq : verboseCouple with
  | error e => exact nomatch (congrArg Except.toOption hq ▸ heval)
  | ok q =>
    rw [hq] at heval
    obtain ⟨hparse, hlength⟩ := Prod.mk.inj (Option.some.inj heval)
    obtain ⟨⟨_, p⟩, hflag, h⟩ := Declaration.bind_eq_ok.mp hq
    obtain ⟨⟨_, q⟩, hadd, h⟩ := Declaration.bind_eq_ok.mp h
    obtain rfl := Except.ok.inj h
    have hdeclares : q.Declares ([.argument {} (verbose.inherit {})] ++
        .argument {} (couple.inherit {}) :: []) := by
      obtain ⟨d, -, -, rfl⟩ := addArgument_eq_ok.mp hflag
      exact (Declares.new.addArgument hflag).addArgument hadd
    obtain ⟨resolved, hresolve, hkind, hsome, hdest⟩ :
        ∃ resolved, Declaration.resolve (couple.inherit {}) {} = .ok resolved ∧
          resolved.kind = .positional "couple" ∧ resolved.dest.isSome ∧
          Declaration.destination (1 * Declaration.width) resolved = "couple" :=
      ⟨_, rfl, rfl, rfl, rfl⟩
    have hcounted : Declaration.Counted (1 * Declaration.width) {} (couple.inherit {}) resolved
        (.exactly 2) "couple" :=
      ⟨hresolve, ⟨_, hkind⟩, rfl, by decide, rfl, by decide, rfl, hdest, by decide⟩
    have hbefore : ∀ p, Call.compile 0 [.argument {} (verbose.inherit {})] = .ok p →
        p.Ignores "couple" := by
      intro p hp
      refine Call.ignores_compile hp (List.forall_mem_singleton.mpr ?_) fun id heq =>
        absurd heq (Declaration.ne_anonymousDest (by decide +kernel) id)
      rintro ⟨r, hr, hmentions⟩
      rw [hr] at hverbose
      obtain ⟨hv, hraw⟩ := Prod.mk.inj (Except.ok.inj hverbose)
      rw [hv, hraw] at hmentions
      exact absurd hmentions (by decide)
    have hafter : ∀ p, Call.compile 2 [] = .ok p → p.Ignores "couple" := by
      rintro _ ⟨⟩
      exact ⟨nofun, nofun⟩
    have hhandlers : ∀ call ∈ [.argument {} (verbose.inherit {})] ++
        .argument {} (couple.inherit {}) :: [],
        Call.Handlers (Handler.Discreet "couple") call :=
      List.forall_mem_cons.mpr ⟨⟨nofun, nofun⟩, List.forall_mem_singleton.mpr ⟨nofun, nofun⟩⟩
    have hunknown : "couple" ∉ Mode.strict.unknownDest := List.not_mem_nil
    have hseed : ((none : Option Namespace).getD .empty).get? "couple" = none := rfl
    obtain ⟨rule, own, values, _, st, hrule, htally, -, -, -, hstrict⟩ :=
      hdeclares.tally_positional rfl hcounted hbefore hafter hhandlers hunknown hseed
        ["a", "-v", "b"]
    have hown : own ≠ [] := by
      rintro rfl
      have hnone : q.compile.kept .strict 1 3 (.start ["a", "-v", "b"] none) = [] :=
        List.map_eq_nil_iff.mp htally.starts
      exact nomatch hnone ▸ hlength
    obtain ⟨-, -, hvalues⟩ := hstrict rfl hown _ hparse
    obtain rfl : [.str "a", .str "b"] = values :=
      Value.list.inj (Option.some.inj (hvalues hsome))
    exact ⟨q, rule, _, own, rfl, hrule, htally, hparse⟩

/-- A switch that is declared as a positional argument with a count. -/
def switches : Argument :=
  { names := ["p"], nargs := some (.exactly 2), action := some .storeTrue }

/-- An action without values replaces the count by zero: then each match is one too many. -/
theorem not_forall_tally_positional :
    ¬ ∀ (q : ArgumentParser) (settings : Settings) (a : Argument) (resolved : ResolvedArgument)
        (name : String) (nargs : Nargs), q.Declares [.argument settings a] →
      Declaration.resolve a settings = .ok resolved → resolved.kind = .positional name →
      a.nargs = some nargs → nargs ≠ .exactly 0 → a.append = false → a.handler = none →
      a.rawDest = none → ∀ tokens dest most items context,
        (q.parse tokens none).1 ≠ .error (.tooManyValues dest most items context) := by
  intro hall
  have heval : (({} : ArgumentParser).addArgument switches).map
      (fun (_, q) => (q.parse ["a", "b"] none).1) =
        .ok (.error (.tooManyValues "p" 0 [.bool true, .bool true] (some "p"))) := by
    decide +kernel
  obtain ⟨resolved, hresolve, hkind⟩ :
      ∃ resolved, Declaration.resolve (switches.inherit {}) {} = .ok resolved ∧
        resolved.kind = .positional "p" := ⟨_, rfl, rfl⟩
  cases hadd : ({} : ArgumentParser).addArgument switches with
  | error e => exact nomatch hadd ▸ heval
  | ok added =>
    rw [hadd] at heval
    exact hall added.2 {} (switches.inherit {}) resolved "p" (.exactly 2)
      (Declares.new.addArgument hadd) hresolve hkind rfl (by decide) rfl rfl rfl ["a", "b"] _ _ _ _
      (Except.ok.inj heval)

end ArgumentParser
end TokenGrammar
