import TokenGrammar.Proofs.Accumulation
import TokenGrammar.Proofs.Greedy
import TokenGrammar.Proofs.Reordering

/-!
# What occurrences leave at a destination

The value of an argument at the end of the tokens, where nothing else has to do with its
destination. The action, the count, the kind of the argument and whether it appends decide how its
values are taken and stored. What they come to is the last list of values, the first value of it,
all the values, or the lists one after the other.

* `Declaration.Takes`: what an argument takes in one match;
* `Declaration.folded`: what the lists of all its kept matches leave at the destination.
  `Declaration.foldl_writer`: its handler makes just this of them;
* `Declaration.isSome_alone_flag`: which tokens a flag is recognised by;
* `Declaration.Occurrence`: one kept match of an argument, whatever its action;
* `ArgumentParser.Declares.attribute_eq_folded`: the attribute before the validators of a lenient
  parse.
-/

namespace TokenGrammar

namespace Declaration

variable {base : Nat} {r : ResolvedArgument} {dest : String} {st st' : State}

/-! ## Values of an argument -/

/-- What an argument may take in one match: one value if its count is undeclared, and if it is zero
its constant, or nothing. -/
structure Takes (r : ResolvedArgument) (values : List Value) : Prop where
  undeclared : countPerMatch r = none → ∃ value, values = [value]
  zero : countPerMatch r = some (.exactly 0) → values = r.constant.toList

/-- What the lists of values of its occurrences leave at the destination of an argument: nothing if
there are none. An argument that appends adds up their values if the count is undeclared or zero,
and the lists otherwise. Any other optional one has the last list, or with such a count the first
value of it, if it has one. Any other positional one has all the values, or the single one if the
count is undeclared. -/
def folded (r : ResolvedArgument) (occurrences : List (List Value)) : Option Value :=
  occurrences.getLast?.bind fun last =>
    if r.append then
      if Nargs.isScalar r.nargs then some (.list occurrences.flatten)
      else some (.list (occurrences.map .list))
    else
      match r.kind with
      | .optional _ _ => if Nargs.isScalar r.nargs then last.head? else some (.list last)
      | .positional _ => if r.nargs = none then last.head? else some (.list occurrences.flatten)

theorem takes_collector {tokens : List String}
    (henough : (collector base r).enough tokens = true) :
    Takes r ((collector base r).stored ((collector base r).gather 0 tokens)) := by
  have hleast : (collector base r).bounds.least ≤ ((collector base r).gather 0 tokens).length :=
    of_decide_eq_true henough
  have hmost := ((collector base r).admits_length_gather tokens).most
  have hbounds : (collector base r).bounds = Nargs.boundsOf (countPerMatch r) := rfl
  rw [hbounds] at hleast hmost
  refine ⟨fun hcount => ?_, fun hcount => ?_⟩
  · rw [hcount] at hleast hmost
    obtain ⟨value, hvalue⟩ :=
      List.length_eq_one_iff.mp (Nat.le_antisymm (hmost 1 rfl) hleast)
    refine ⟨value, ?_⟩
    rw [hvalue, Collector.stored, hbounds, hcount]
    cases (collector base r).filter.constant <;> rfl
  · rw [hcount] at hmost
    have hnone := List.eq_nil_of_length_eq_zero (Nat.le_zero.mp (hmost 0 rfl))
    have hconstant : (collector base r).filter.constant = r.constant := rfl
    rw [hnone, Collector.stored, hbounds, hcount, hconstant]
    cases r.constant <;> rfl

/-- What the handler of an argument makes of the lists of values of its occurrences. -/
theorem foldl_writer (hnone : r.handler = none) {occurrences : List (List Value)}
    (h : Nargs.isScalar (countPerMatch r) →
      (∀ values ∈ occurrences, values ≠ []) ∨ ∀ values ∈ occurrences, values = []) :
    occurrences.foldl (writer r).store none = folded r occurrences := by
  obtain rfl | hne := eq_or_ne occurrences []
  · rfl
  have hlast := List.getLast?_eq_some_getLast hne
  have hfirst (hscalar : Nargs.isScalar (countPerMatch r) = true) :=
    Handler.foldl_store_setFirst (h hscalar)
  have hset := Handler.foldl_store_set occurrences
  have hextend := Handler.foldl_store_extend occurrences
  have happend := Handler.foldl_store_append occurrences
  rw [hlast] at hfirst hset
  rw [if_neg hne] at hextend happend
  rw [folded, hlast, Option.bind_some, writer, hnone, setterHandler, Option.getD_none]
  rw [countPerMatch] at hfirst ⊢
  rw [accumulates]
  cases hkind : r.kind with
  | optional flags prefixes =>
    simp only [hkind] at hfirst ⊢
    cases r.append with
    | true => cases Nargs.isScalar r.nargs <;> assumption
    | false =>
      cases hscalar : Nargs.isScalar r.nargs with
      | true => exact hfirst hscalar
      | false => exact hset
  | positional name =>
    cases hadds : r.append with
    | true =>
      simp only [Bool.true_or, if_true]
      cases Nargs.isScalar r.nargs <;> assumption
    | false =>
      simp only [hkind, hadds, Bool.false_or, Bool.false_eq_true, if_false] at hfirst ⊢
      cases hnargs : r.nargs with
      | none => exact hfirst rfl
      | some nargs => exact hextend

/-! ## Rules of an argument -/

theorem stores_build (base : Nat) (hraw : dest ∉ r.rawDest) :
    (build base r).rule.Each (Rule.StoresBy (writer r) dest) := by
  refine each_build (fun q hq => ?_) (fun _ => rfl) fun _ _ _ => hraw
  cases q with
  | collect collector own => exact nomatch hq
  | capture id dests rule format own =>
    obtain rfl : dests = [] := hq
    exact List.not_mem_nil
  | _ => trivial

theorem gives_build (base : Nat) (r : ResolvedArgument) (dest : String) :
    (build base r).rule.Each (Rule.Gives (Takes r) dest) := by
  refine each_build (fun q hq => ?_) (fun _ tokens => takes_collector) fun _ _ _ => trivial
  cases q with
  | collect collector own => exact nomatch hq
  | _ => trivial

theorem takesOne_build (hr : r.Handlers Handler.Local) (hdest : destination base r = dest) :
    (build base r).rule.TakesOne dest := by
  have hbare := sound_bareRule (fun _ => Handler.local_of_builtIn) hr base
  have hone : (bareRule base r).TakesOne dest := by
    rw [bareRule_eq] at hbare ⊢
    exact Rule.takesOne_all hbare.library hbare.apart (spares_front base r dest) hdest
  have hbuild := sound_build (fun _ => Handler.local_of_builtIn) hr base
  obtain heq | ⟨handler, heq⟩ := rule_build_cases base r
  · rw [heq]
    exact hone
  · rw [heq] at hbuild ⊢
    exact Rule.takesOne_capture hbuild.library hbuild.apart hone

/-! ## Flags -/

/-- A word is looked for at the next token. -/
theorem alone_oneOf (words : List String) (fold : Bool) (st : State) :
    (Rule.oneOf words fold).alone st =
      if st.tokens.head?.any (Rule.isWord (if fold then words.map Text.toLowerCase else words) fold)
      then some st else none := by
  rw [Rule.oneOf, Rule.alone, Rule.run, Rule.onNext_eq, Step.get_bind]
  cases st.tokens.head?.any _ <;> rfl

theorem isSome_alone_skip (left : st.tokens.isEmpty = false) :
    ((Rule.skip 1).alone st).isSome := by
  have hsize : ¬ st.tokens.size < 1 := by
    simpa [TokenBuffer.isEmpty, Nat.pos_iff_ne_zero] using left
  have htake : st.tokens.take? 1 = some _ := if_neg hsize
  rw [Rule.alone, Rule.run, Step.get_bind, State.next?, htake]
  rfl

/-- Where no value has to be taken, it makes no difference what the tokens are. -/
theorem isSome_alone_collect {c : Collector} (handler : Handler) (hst : st.savepoints = [])
    (hleast : c.bounds.least = 0) : ((Rule.collect c handler).alone st).isSome := by
  have hfree : ∀ sp ∈ st.savepoints, sp.owner ≠ .rule c.id := by
    rw [hst]
    exact fun sp hsp => nomatch hsp
  have hcollect := Collector.collect_eq_consume hfree
  rw [if_pos (by rw [hleast]; exact Nat.zero_le _)] at hcollect
  rw [Rule.alone, Rule.run, Rule.collectStep, Step.bind_apply, hcollect]
  rfl

/-- Recording the tokens makes no difference to whether an argument matches. -/
theorem isSome_alone_build (hr : r.Handlers Handler.Local) (base : Nat)
    (hst : st.savepoints = []) :
    ((build base r).rule.alone st).isSome = ((bareRule base r).alone st).isSome := by
  have hbuild := sound_build (fun _ => Handler.local_of_builtIn) hr base
  obtain heq | ⟨handler, heq⟩ := rule_build_cases base r
  · rw [heq]
  · rw [heq] at hbuild ⊢
    obtain ⟨hnone, hcapture⟩ | ⟨mid, consumed, hmatch, hcapture⟩ :=
      hbuild.library.alone_capture hbuild.apart hst
    · rw [hnone, hcapture]
    · rw [hmatch, hcapture]
      rfl

/-- A flag is recognised at a token that is one of its spellings. -/
theorem isSome_alone_recognisers {id : Nat} {flags : List String}
    (hlibrary : (Rule.any id (recognisers base r flags [])).Library Handler.Local)
    (hapart : (Rule.any id (recognisers base r flags [])).Apart) (hst : st.savepoints = [])
    (left : st.tokens.isEmpty = false) :
    ((Rule.any id (recognisers base r flags [])).alone st).isSome =
      st.tokens.head?.any (Rule.isWord
        (if r.ignoreCase then flags.map Text.toLowerCase else flags) r.ignoreCase) := by
  rw [hlibrary.alone_any hapart hst]
  cases flags with
  | nil =>
    have hnone : recognisers base r [] [] = [] := by simp [recognisers]
    rw [hnone]
    cases st.tokens.head? <;> simp [Rule.firstMatch, Rule.isWord]
  | cons flag flags =>
    have hone : recognisers base r (flag :: flags) [] =
        [.all (base + 1) [.oneOf (flag :: flags) r.ignoreCase, .skip 1]] := by
      simp [recognisers]
    rw [hone] at hlibrary hapart ⊢
    have hall := (hlibrary.subs _ List.mem_cons_self).alone_all
      (hapart.subs _ List.mem_cons_self) hst
    have hfirst : Rule.firstMatch [.all (base + 1) [.oneOf (flag :: flags) r.ignoreCase, .skip 1]]
        st = _ := (List.findSome?_singleton).trans hall
    rw [hfirst, Rule.aloneAll_cons, alone_oneOf]
    cases st.tokens.head?.any _ with
    | false => rfl
    | true =>
      obtain ⟨mid, hskip⟩ := Option.isSome_iff_exists.mp (isSome_alone_skip left)
      rw [if_pos rfl, Option.bind_some, Rule.aloneAll_cons, hskip]
      rfl

/-- An argument without values and prefixes matches just if the next token is one of its flags. -/
theorem isSome_alone_flag (hr : r.Handlers Handler.Local) {flags : List String}
    (hkind : r.kind = .optional flags []) (hnargs : r.nargs = some (.exactly 0))
    (hst : st.savepoints = []) (left : st.tokens.isEmpty = false) :
    ((build base r).rule.alone st).isSome ↔
      ∃ token, st.tokens.head? = some token ∧ r.HasFlag token := by
  have hbare := sound_bareRule (fun _ => Handler.local_of_builtIn) hr base
  rw [isSome_alone_build hr base hst]
  rw [bareRule_eq] at hbare ⊢
  have hfront : front base r = [.any (base + 4) (recognisers base r flags [])] := by
    rw [front, hkind]
  have hmem : Rule.any (base + 4) (recognisers base r flags []) ∈
      front base r ++ [.collect (collector base r) (writer r)] := by simp [hfront]
  have hlibrary := hbare.library.subs _ hmem
  have hapart := hbare.apart.subs _ hmem
  have hword := isSome_alone_recognisers hlibrary hapart hst left
  have hflag : (∃ token, st.tokens.head? = some token ∧ r.HasFlag token) ↔
      st.tokens.head?.any (Rule.isWord
        (if r.ignoreCase then flags.map Text.toLowerCase else flags) r.ignoreCase) = true := by
    rw [Option.any_eq_true]
    simp only [ResolvedArgument.HasFlag, hkind]
  rw [hflag, ← hword, hbare.library.alone_all hbare.apart hst, hfront, List.singleton_append,
    Rule.aloneAll_cons]
  cases hmatch : (Rule.any (base + 4) (recognisers base r flags [])).alone st with
  | none => rfl
  | some mid =>
    have hmid := hlibrary.savepoints_of_alone hapart hst hmatch
    have hleast : (collector base r).bounds.least = 0 := by
      rw [collector, countPerMatch, hkind, hnargs]
      rfl
    obtain ⟨next, hnext⟩ :=
      Option.isSome_iff_exists.mp (isSome_alone_collect (writer r) hmid hleast)
    rw [Option.bind_some, Rule.aloneAll_cons, hnext]
    exact iff_of_true rfl rfl

/-! ## Occurrences -/

/-- The argument whose values are stored: the declared one as its action adjusts it, and of a flag
and its opposite the flag. -/
def adjusted (a : Argument) (resolved : ResolvedArgument) : Except GrammarError ResolvedArgument :=
  if a.action.getD .store = .msvcFlag then
    .ok (flagVariant resolved true (a.msvcTrueSuffix.getD ""))
  else adjust resolved (a.action.getD .store)

/-- The argument has this destination and no other one. Without a name, a flag and its opposite have
one each. -/
def Sole (base : Nat) (a : Argument) (resolved : ResolvedArgument) (dest : String) : Prop :=
  destination base resolved = dest ∧
    (a.action.getD .store = .msvcFlag → destination (base + buildWidth) resolved = dest)

/-- What an argument takes where one of its matches is kept: values as its count says, or true or
false for the spelling of the token. -/
inductive Occurrence (a : Argument) (resolved r : ResolvedArgument) (here : State) :
    List Value → Prop where
  | values {values : List Value} (action : a.action.getD .store ≠ .msvcFlag)
      (takes : Takes r values) : Occurrence a resolved r here values
  | on {token : String} (action : a.action.getD .store = .msvcFlag)
      (next : here.tokens.head? = some token)
      (flag : (flagVariant resolved true (a.msvcTrueSuffix.getD "")).HasFlag token) :
      Occurrence a resolved r here [.bool true]
  | off {token : String} (action : a.action.getD .store = .msvcFlag)
      (next : here.tokens.head? = some token)
      (other : ¬ (flagVariant resolved true (a.msvcTrueSuffix.getD "")).HasFlag token)
      (flag : (flagVariant resolved false (a.msvcFalseSuffix.getD "-")).HasFlag token) :
      Occurrence a resolved r here [.bool false]

/-- A rule stores in the attribute what it takes for it, and any number of the lists that it may
take come to what the argument leaves there. -/
structure Accounts (r : ResolvedArgument) (dest : String) (rule : Rule) : Prop where
  folds : rule.Folds (writer r) dest
  folded : ∀ occurrences, (∀ values ∈ occurrences, ∃ st, values ∈ rule.collected dest st) →
    occurrences.foldl (writer r).store none = folded r occurrences

theorem builtIn_writer (hnone : r.handler = none) : (writer r).BuiltIn :=
  ok_setterHandler (fun _ hb => hb) (by rw [hnone]; exact fun h hmem => nomatch hmem) _ _

/-- Where each list is one value, or each is the constant, either all of them are empty or none
is. -/
theorem Takes.uniform {occurrences : List (List Value)}
    (h : ∀ values ∈ occurrences, Takes r values)
    (hscalar : Nargs.isScalar (countPerMatch r)) :
    (∀ values ∈ occurrences, values ≠ []) ∨ ∀ values ∈ occurrences, values = [] := by
  simp only [Nargs.isScalar, Bool.or_eq_true, decide_eq_true_eq] at hscalar
  obtain hcount | hcount := hscalar
  · refine .inl fun values hvalues => ?_
    obtain ⟨value, rfl⟩ := (h values hvalues).undeclared hcount
    exact List.cons_ne_nil _ _
  · cases hconstant : r.constant with
    | none =>
      refine .inr fun values hvalues => ?_
      rw [(h values hvalues).zero hcount, hconstant]
      rfl
    | some constant =>
      refine .inl fun values hvalues => ?_
      rw [(h values hvalues).zero hcount, hconstant]
      exact List.cons_ne_nil _ _

section Declared

variable {a : Argument} {settings : Settings} {d : Declaration}
  {trueSuffix falseSuffix : String}

theorem accounts_build (hr : r.Handlers fun handler => handler.Local ∧ handler.Keeps dest)
    (hnone : r.handler = none) (hraw : dest ∉ r.rawDest) (base : Nat) :
    Accounts r dest (build base r).rule := by
  have hsound := sound_build (fun _ h => Handler.local_keeps_of_builtIn h dest) hr base
  refine ⟨(stores_build base hraw).folds (builtIn_writer hnone) hsound.library hsound.apart,
    fun occurrences htaken => foldl_writer hnone (Takes.uniform fun values hvalues => ?_)⟩
  obtain ⟨st, hcollected⟩ := htaken values hvalues
  exact (gives_build base r dest).forall_collected st values hcollected

/-- What a flag or its opposite takes is its constant. -/
theorem Takes.eq_of_flagVariant {value : Bool} {suffix : String} {values : List Value}
    (h : Takes (flagVariant r value suffix) values) : values = [.bool value] := h.zero rfl

theorem accounts_flagPair (hr : r.Handlers fun handler => handler.Local ∧ handler.Keeps dest)
    (hnone : r.handler = none) (hraw : dest ∉ r.rawDest) (base : Nat)
    (trueSuffix falseSuffix : String) :
    Accounts (flagVariant r true trueSuffix) dest
      (flagPair base r trueSuffix falseSuffix).rule := by
  have hsound := sound_flagPair (fun _ h => Handler.local_keeps_of_builtIn h dest) hr base
    trueSuffix falseSuffix
  have on := stores_build (r := flagVariant r true trueSuffix) base hraw
  have off := stores_build (r := flagVariant r false falseSuffix) (base + buildWidth) hraw
  have hstores : (flagPair base r trueSuffix falseSuffix).rule.Each
      (Rule.StoresBy (writer (flagVariant r true trueSuffix)) dest) :=
    (Rule.each_any ..).mpr
      ⟨trivial, List.forall_mem_cons.mpr ⟨on, List.forall_mem_singleton.mpr off⟩⟩
  have hflag (value : Bool) (suffix : String) (base : Nat) :
      (build base (flagVariant r value suffix)).rule.Each (Rule.Gives (· ≠ []) dest) := by
    refine Rule.Each.mono (fun q => Rule.Gives.mono fun values htakes => ?_) (gives_build _ _ _)
    rw [htakes.eq_of_flagVariant]
    exact List.cons_ne_nil _ _
  have hgives : (flagPair base r trueSuffix falseSuffix).rule.Each (Rule.Gives (· ≠ []) dest) :=
    (Rule.each_any ..).mpr
      ⟨trivial, List.forall_mem_cons.mpr ⟨hflag .., List.forall_mem_singleton.mpr (hflag ..)⟩⟩
  have hhandler : (flagVariant r true trueSuffix).handler = none := hnone
  refine ⟨hstores.folds (builtIn_writer hhandler) hsound.library hsound.apart,
    fun occurrences htaken => foldl_writer hhandler fun _ => .inl fun values hvalues => ?_⟩
  obtain ⟨st, hcollected⟩ := htaken values hvalues
  exact hgives.forall_collected st values hcollected

/-- A match of a flag or its opposite takes its constant, at a token that is one of its
spellings. -/
theorem collected_flagVariant (hr : r.Handlers Handler.Local) (hdest : destination base r = dest)
    {value : Bool} {suffix : String} (hst : st.savepoints = [])
    (left : st.tokens.isEmpty = false)
    (halone : (build base (flagVariant r value suffix)).rule.alone st = some st') :
    (build base (flagVariant r value suffix)).rule.collected dest st = [[.bool value]] ∧
      ∃ token, st.tokens.head? = some token ∧ (flagVariant r value suffix).HasFlag token := by
  have hvariant : (flagVariant r value suffix).Handlers Handler.Local := hr
  obtain ⟨values, hvalues⟩ := takesOne_build hvariant hdest st st' hst halone
  have htakes : Takes (flagVariant r value suffix) values :=
    (gives_build base _ dest).forall_collected st values (by rw [hvalues]; exact List.mem_cons_self)
  refine ⟨by rw [hvalues, htakes.eq_of_flagVariant], ?_⟩
  exact (isSome_alone_flag hvariant rfl rfl hst left).mp (by rw [halone]; rfl)

/-- A kept match of a flag or its opposite. -/
theorem occurrence_flagPair (hr : r.Handlers Handler.Local) (hon : destination base r = dest)
    (hoff : destination (base + buildWidth) r = dest) (hst : st.savepoints = [])
    (left : st.tokens.isEmpty = false)
    (halone : (flagPair base r trueSuffix falseSuffix).rule.alone st = some st') :
    ∃ value token, (flagPair base r trueSuffix falseSuffix).rule.collected dest st =
        [[.bool value]] ∧ st.tokens.head? = some token ∧
      if value then (flagVariant r true trueSuffix).HasFlag token
      else ¬ (flagVariant r true trueSuffix).HasFlag token ∧
        (flagVariant r false falseSuffix).HasFlag token := by
  have hsound := sound_flagPair (fun _ => Handler.local_of_builtIn) hr base trueSuffix falseSuffix
  rw [flagPair] at hsound halone ⊢
  rw [hsound.library.alone_any hsound.apart hst, Rule.firstMatch, List.findSome?_cons] at halone
  rw [Rule.collected, Rule.collectedAny, Rule.collectedAny]
  cases hmatch : (build base (flagVariant r true trueSuffix)).rule.alone st with
  | some mid =>
    obtain ⟨hcollected, token, hnext, hflag⟩ := collected_flagVariant hr hon hst left hmatch
    exact ⟨true, token, hcollected, hnext, hflag⟩
  | none =>
    rw [hmatch, List.findSome?_singleton] at halone
    have hopposite : (build (base + buildWidth) (flagVariant r false falseSuffix)).rule.alone st =
        some st' := halone
    obtain ⟨hcollected, token, hnext, hflag⟩ := collected_flagVariant hr hoff hst left hopposite
    refine ⟨false, token, ?_, hnext, fun hother => ?_, hflag⟩
    · rw [hopposite]
      exact hcollected
    · have hvariant : (flagVariant r true trueSuffix).Handlers Handler.Local := hr
      have hsome : ((build base (flagVariant r true trueSuffix)).rule.alone st).isSome :=
        (isSome_alone_flag hvariant rfl rfl hst left).mpr ⟨token, hnext, hother⟩
      rw [hmatch] at hsome
      cases hsome

/-- The rule of an argument, whatever its action. -/
theorem accounts_ofArgument (h : ofArgument base a settings {} = .ok d)
    (ha : a.Handlers fun handler => handler.Local ∧ handler.Keeps dest)
    (hhandler : a.handler = none) (hraw : dest ∉ a.rawDest.getD []) :
    ∃ resolved r, resolve a settings = .ok resolved ∧ adjusted a resolved = .ok r ∧
      Accounts r dest d.rule ∧
      (Sole base a resolved dest → ∀ here next, here.savepoints = [] →
        here.tokens.isEmpty = false → d.rule.alone here = some next →
          ∃ values, d.rule.collected dest here = [values] ∧
            Occurrence a resolved r here values) := by
  obtain ⟨-, resolved, hresolve, hd⟩ := ofArgument_eq_ok.mp h
  obtain ⟨hnone, hrawDest, -, -⟩ := resolve_keeps hresolve
  rw [hhandler] at hnone
  rw [← hrawDest] at hraw
  have hr := handlers_resolve ha hresolve
  have hlocal {s : ResolvedArgument}
      (hs : s.Handlers fun handler => handler.Local ∧ handler.Keeps dest) :
      s.Handlers Handler.Local := hs.mono fun _ => And.left
  obtain ⟨haction, r, hadjust, rfl⟩ | ⟨haction, rfl⟩ := applyAction_eq_ok.mp hd
  · have halike := adjust_alike hadjust
    refine ⟨resolved, r, hresolve, (if_neg haction).trans hadjust,
      accounts_build (halike.handlers hr) (halike.handler.trans hnone) (halike.rawDest ▸ hraw) base,
      fun hsole here next hst left halone => ?_⟩
    have hdest : destination base r = dest := by
      rw [destination, halike.dest]
      exact hsole.1
    obtain ⟨values, hvalues⟩ :=
      takesOne_build (hlocal (halike.handlers hr)) hdest here next hst halone
    refine ⟨values, hvalues, .values haction ?_⟩
    exact (gives_build base r dest).forall_collected here values
      (by rw [hvalues]; exact List.mem_cons_self)
  · refine ⟨resolved, _, hresolve, if_pos haction, accounts_flagPair hr hnone hraw base _ _,
      fun hsole here next hst left halone => ?_⟩
    obtain ⟨value, token, hvalues, hnext, hflag⟩ :=
      occurrence_flagPair (hlocal hr) hsole.1 (hsole.2 haction) hst left halone
    refine ⟨_, hvalues, ?_⟩
    cases value with
    | true => exact .on haction hnext hflag
    | false => exact .off haction hnext hflag.1 hflag.2

end Declared

end Declaration

/-! ## Parses -/

namespace ArgumentParser

/-- In a lenient parse, what stands at the destination of an argument before the validators are run
is what its kept matches leave there, if the argument has no handler of its own and nothing else has
to do with the destination: no other rule and no capture writes it, skipped tokens are recorded
elsewhere, and it is not there at the start. Other handlers may be the user's own, if they work
through the operations of the state and leave this attribute alone. -/
theorem Declares.attribute_eq_folded {q : ArgumentParser} {calls : List Call}
    (h : q.Declares calls) {i : Nat} {settings : Settings} {a : Argument}
    (ha : (Call.arguments calls)[i]? = some (settings, a)) (hhandler : a.handler = none)
    {dest : String} (hraw : dest ∉ a.rawDest.getD [])
    (hothers : ∀ j rule, j ≠ i → q.rules[j]? = some rule → rule.Spares dest)
    (hhandlers : ∀ call ∈ calls,
      call.Handlers fun handler => handler.Local ∧ handler.Keeps dest)
    {unknownDest : List String} (hunknown : dest ∉ unknownDest) {seed : Option Namespace}
    (hseed : (seed.getD .empty).get? dest = none) (tokens : List String) :
    ∃ rule resolved r unparsed st, q.rules[i]? = some rule ∧
      Declaration.resolve a settings = .ok resolved ∧
      Declaration.adjusted a resolved = .ok r ∧
      q.compile.consumeAll (.lenient unknownDest) tokens.length (.start tokens seed) =
        .ok unparsed st ∧
      (q.parseKnown tokens seed unknownDest).1 =
        (TokenParser.validate (.lenient unknownDest) q.compile.validators st.attributes).map
          (·, unparsed) ∧
      st.attribute? dest = Declaration.folded r
        ((q.compile.kept (.lenient unknownDest) i tokens.length (.start tokens seed)).flatMap
          (rule.collected dest)) ∧
      (Declaration.Sole (i * Declaration.width) a resolved dest →
        ∀ here ∈ q.compile.kept (.lenient unknownDest) i tokens.length (.start tokens seed),
          ∃ values, rule.collected dest here = [values] ∧
            Declaration.Occurrence a resolved r here values) := by
  have hrules := (h.built hhandlers).sound fun _ h => Handler.local_keeps_of_builtIn h dest
  have hsound : q.compile.Sound := by
    rw [h.compile_eq]
    exact fun r hr => ⟨(hrules r hr).1.of_handlers fun _ => And.left, (hrules r hr).2⟩
  obtain ⟨-, hnone⟩ | ⟨settings', a', d, ha', hd, hrule⟩ := Call.getElem?_compile h.compile_calls i
  · exact nomatch hnone.symm.trans ha
  obtain ⟨rfl, rfl⟩ := Prod.mk.inj (Option.some.inj (ha.symm.trans ha'))
  rw [Nat.zero_add] at hd
  have hargument := hhandlers _ (Call.mem_of_mem_arguments (List.mem_of_getElem? ha))
  obtain ⟨resolved, r, hresolve, hadjusted, haccounts, hoccurs⟩ :=
    Declaration.accounts_ofArgument hd hargument hhandler hraw
  have hst : (State.start tokens seed).savepoints = [] := rfl
  obtain ⟨unparsed, st, hrun, -⟩ :=
    hsound.scan (.lenient unknownDest) hst (Nat.le_of_eq (TokenBuffer.size_ofTokens tokens))
  have hcompiled : q.compile.rules[i]? = some d.rule := by rw [h.compile_eq]; exact hrule
  have hskipped : dest ∉ (Mode.lenient unknownDest).unknownDest := hunknown
  refine ⟨d.rule, resolved, r, unparsed, st, hrule, hresolve, hadjusted, hrun, ?_, ?_, ?_⟩
  · exact (hsound.parse_of_consumeAll hrun).trans (if_neg fun hstrict => nomatch hstrict.1)
  · have hkept := hsound.attribute_consumeAll hcompiled haccounts.folds
      (fun j other hj hother st st' hst halone => ?_) hskipped hst hrun
    · rw [hkept, show (State.start tokens seed).attribute? dest = none from hseed]
      refine haccounts.folded _ fun values hvalues => ?_
      obtain ⟨here, -, hcollected⟩ := List.mem_flatMap.mp hvalues
      exact ⟨here, hcollected⟩
    · rw [h.compile_eq] at hother
      obtain ⟨hlibrary, hapart⟩ := hrules other (List.mem_of_getElem? hother)
      exact hlibrary.attribute?_of_alone hapart (hothers j other hj hother) hst halone
  · intro hsole here hhere
    obtain ⟨hsps, left, next, halone⟩ := hsound.alone_of_mem_kept hcompiled hst hhere
    exact hoccurs hsole here next hsps left halone

/-- A name and its value, any number of times. -/
def define : Argument := { names := ["-D"], nargs := some (.exactly 2), append := true }

/-- Definitions among files. -/
def definitions : Except GrammarError ArgumentParser := do
  let (_, p) ← ({} : ArgumentParser).addArgument define
  let (_, q) ← p.addArgument files
  return q

/-- Each definition is a list by itself, and a file between them makes no difference. -/
theorem Declares.attribute_eq_folded_definitions :
    ∃ q unparsed st, definitions = .ok q ∧
      q.compile.consumeAll (.lenient []) 7
        (.start ["-D", "a", "1", "file", "-D", "b", "2"] none) = .ok unparsed st ∧
      st.attribute? "D" =
        some (.list [.list [.str "a", .str "1"], .list [.str "b", .str "2"]]) := by
  have heval : (do
      let q ← definitions.toOption
      let rule ← q.rules[0]?
      let resolved ← (Declaration.resolve (define.inherit {}) {}).toOption
      let r ← (Declaration.adjusted (define.inherit {}) resolved).toOption
      return (decide (∀ rule ∈ q.rules.drop 1, rule.Spares "D"),
        Declaration.folded r ((q.compile.kept (.lenient []) 0 7
          (.start ["-D", "a", "1", "file", "-D", "b", "2"] none)).flatMap
            (rule.collected "D")))) =
      some (true, some (.list [.list [.str "a", .str "1"], .list [.str "b", .str "2"]])) := by
    decide +kernel
  cases hdefinitions : definitions with
  | error e => exact nomatch (congrArg Except.toOption hdefinitions ▸ heval)
  | ok q =>
    rw [hdefinitions] at heval
    obtain ⟨⟨_, p⟩, hdefine, h⟩ := Declaration.bind_eq_ok.mp hdefinitions
    obtain ⟨⟨_, q⟩, hfiles, h⟩ := Declaration.bind_eq_ok.mp h
    cases h
    have hdeclares : q.Declares
        [.argument {} (define.inherit {}), .argument {} (files.inherit {})] := by
      obtain ⟨d, -, -, rfl⟩ := addArgument_eq_ok.mp hdefine
      exact (Declares.new.addArgument hdefine).addArgument hfiles
    obtain ⟨_, ⟨⟩, heval⟩ := Option.bind_eq_some_iff.mp heval
    obtain ⟨rule, hrule, heval⟩ := Option.bind_eq_some_iff.mp heval
    obtain ⟨resolved, hresolved, heval⟩ := Option.bind_eq_some_iff.mp heval
    obtain ⟨r, hadjusted, heval⟩ := Option.bind_eq_some_iff.mp heval
    obtain ⟨hspares, hfolded⟩ := Prod.mk.inj (Option.some.inj heval)
    have hothers : ∀ j rule, j ≠ 0 → q.rules[j]? = some rule → rule.Spares "D" := by
      intro j rule hj hother
      refine of_decide_eq_true hspares rule (List.mem_of_getElem? (i := j - 1) ?_)
      rw [List.getElem?_drop, Nat.add_sub_cancel' (Nat.pos_of_ne_zero hj)]
      exact hother
    have ha : (Call.arguments [.argument {} (define.inherit {}),
        .argument {} (files.inherit {})])[0]? =
          some (({} : Settings), define.inherit {}) := rfl
    have hraw : "D" ∉ (define.inherit {}).rawDest.getD [] := by decide
    have hhandlers : ∀ call ∈ [.argument {} (define.inherit {}), .argument {} (files.inherit {})],
        Call.Handlers (fun handler => handler.Local ∧ handler.Keeps "D") call := by
      simp [Call.Handlers, Argument.Handlers, Argument.inherit, define, files]
    have hunknown : "D" ∉ ([] : List String) := List.not_mem_nil
    have hseed : ((none : Option Namespace).getD .empty).get? "D" = none := rfl
    obtain ⟨rule', resolved', r', unparsed, st, hrule', hresolved', hadjusted', hrun, -, hst, -⟩ :=
      hdeclares.attribute_eq_folded ha rfl hraw hothers hhandlers hunknown hseed
        ["-D", "a", "1", "file", "-D", "b", "2"]
    obtain rfl := Option.some.inj (hrule'.symm.trans hrule)
    rw [hresolved'] at hresolved
    obtain rfl := Option.some.inj hresolved
    rw [hadjusted'] at hadjusted
    obtain rfl := Option.some.inj hadjusted
    exact ⟨q, unparsed, st, rfl, hrun, hst.trans hfolded⟩

end ArgumentParser

end TokenGrammar
