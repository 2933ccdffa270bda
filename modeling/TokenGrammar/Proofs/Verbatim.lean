import TokenGrammar.Proofs.Conservation

/-!
# Verbatim capture

Where every argument records its tokens in one attribute, and skipped tokens are recorded there as
well, the attribute ends up with the command line, as it was spelled.

* `Value.Spells`: the texts of a list, with the lists in it read in place;
* `Content.Spelling`: what is consumed between two contents is added to an attribute.
  `Declaration.spelling_build`: so it is when the rule of an argument matches that records there;
* `TokenParser.Split.spells`: so it is in any number of rounds, by induction on the spans;
* `ArgumentParser.Declares.spells_commandLine`: a lenient parse records the command line.
-/

namespace TokenGrammar

/-! ## Texts of a list -/

namespace Value

/-- The list has the texts, where a list in it is read in place. A missing list is empty. -/
def Spells (value? : Option Value) (texts : List String) : Prop :=
  ∃ items, (value? = none ∧ items = [] ∨ value? = some (.list items)) ∧
    items.flatMap toList = texts.map .str

variable {value? : Option Value} {texts more : List String} {items : List Value}

theorem Spells.add (h : Spells value? texts) (hitems : items.flatMap toList = more.map .str) :
    Spells (some (.list ((value?.map toList).getD [] ++ items))) (texts ++ more) := by
  obtain ⟨before, hvalue, hbefore⟩ := h
  have heq : (value?.map toList).getD [] = before := by
    obtain ⟨rfl, rfl⟩ | rfl := hvalue <;> rfl
  refine ⟨before ++ items, .inr (by rw [heq]), ?_⟩
  rw [List.flatMap_append, hbefore, hitems, List.map_append]

/-- One text is recorded by itself, and several texts as one list of them. -/
theorem flatMap_spread (texts : List String) :
    (Handler.spread (ofTexts texts)).flatMap toList = texts.map .str := by
  rw [ofTexts, Handler.spread, List.length_map]
  split
  · rename_i hle
    cases texts with
    | nil => rfl
    | cons text rest =>
      obtain rfl : rest = [] :=
        List.eq_nil_of_length_eq_zero (Nat.le_zero.mp (Nat.le_of_succ_le_succ hle))
      rfl
  · exact List.append_nil _

end Value

/-! ## Rules that record -/

/-- The tokens that are consumed between the contents are added to the texts of the attribute. -/
def Content.Spelling (name : String) (c d : Content) : Prop :=
  ∀ texts taken, taken ≠ [] → c.tokens.remaining = taken ++ d.tokens.remaining →
    Value.Spells (c.attributes.get? name) texts →
      Value.Spells (d.attributes.get? name) (texts ++ taken)

/-- What was consumed behind a token that may have been respelled. -/
theorem TokenBuffer.Respelled.take_eq {b d : TokenBuffer} {taken : List String} (h : b.Respelled d)
    (hne : taken ≠ []) (htokens : b.remaining = taken ++ d.remaining) :
    b.cursor < d.cursor ∧ d.cursor ≤ d.tokens.length ∧
      b.remaining.take (d.cursor - b.cursor) = taken := by
  have hlength := congrArg List.length htokens
  rw [List.length_append, length_remaining, length_remaining, size, size, h.length] at hlength
  have hpos := List.length_pos_of_ne_nil hne
  have hend : d.cursor ≤ d.tokens.length := h.inside (by omega)
  have hmove := h.cursor
  rw [h.length] at hend
  refine ⟨by omega, by rw [h.length]; exact hend, ?_⟩
  rw [htokens, List.take_left' (by omega)]

namespace Rule

/-- The attribute that a rule stores values in by itself. -/
def stores? : Rule → Option String
  | .collect collector _ => some collector.dest
  | _ => none

end Rule

namespace Declaration

variable {base : Nat} {r : ResolvedArgument} {name : String}

/-- What recognises an optional argument writes nothing. -/
theorem dests_recognisers (flags prefixes : List String) :
    ∀ q ∈ recognisers base r flags prefixes, q.Each (·.dests = []) := by
  intro q hq
  obtain rfl | rfl := eq_of_mem_recognisers hq
  · simp [Rule.oneOf, Rule.dests]
  · simp [Rule.dests]

/-- The count of values that an argument takes in one match. A positional one that does not append
takes one value. -/
def countPerMatch (r : ResolvedArgument) : Option Nargs :=
  match r.kind with
  | .optional _ _ => r.nargs
  | .positional _ => if r.append then r.nargs else none

/-- Whether an argument adds to what it has stored before. -/
def accumulates (r : ResolvedArgument) : Bool :=
  match r.kind with
  | .optional _ _ => r.append
  | .positional _ => r.append || r.nargs.isSome

/-- What takes the values of an argument. -/
def collector (base : Nat) (r : ResolvedArgument) : Collector :=
  ⟨base + 5, r.dest.getD (anonymousDest base), Nargs.boundsOf (countPerMatch r), valueFilter r⟩

/-- What stores the values of an argument. -/
def writer (r : ResolvedArgument) : Handler :=
  setterHandler (countPerMatch r) (accumulates r) r.handler

/-- What has to match in front of the values of an argument. -/
def front (base : Nat) (r : ResolvedArgument) : List Rule :=
  match r.kind with
  | .optional flags prefixes => [.any (base + 4) (recognisers base r flags prefixes)]
  | .positional _ =>
    [.not (base + 1) (.removePrefix (r.prefixChars.toList.map fun c => .ofList [c]) false),
      .limiter (base + 2) (positionalLimit r.append r.nargs)]

/-- The rule of an argument, whatever its kind: something in front, and then its values. -/
theorem bareRule_eq (base : Nat) (r : ResolvedArgument) :
    bareRule base r =
      .all (base + 6) (front base r ++ [.collect (collector base r) (writer r)]) := by
  rw [bareRule, front, collector, writer, countPerMatch, accumulates]
  cases r.kind with
  | optional flags prefixes =>
    simp only [optionalRule, setter_eq_collect]
    rfl
  | positional name =>
    simp only [positionalRule, setter_eq_collect]
    rfl

theorem dests_front (base : Nat) (r : ResolvedArgument) :
    ∀ q ∈ front base r, q.Each (·.dests = []) := by
  rw [front]
  cases r.kind with
  | optional flags prefixes =>
    exact List.forall_mem_singleton.mpr (.intro rfl (dests_recognisers flags prefixes))
  | positional name => simp [Rule.limiter, Rule.dests]

theorem spares_front (base : Nat) (r : ResolvedArgument) (name : String) :
    ∀ q ∈ front base r, q.Spares name := by
  intro q hq
  refine Rule.Each.mono (fun q hnone => ?_) (dests_front base r q hq)
  rw [hnone]
  exact List.not_mem_nil

/-- In the rule of an argument, what stores its values is the only rule that writes by itself. -/
theorem each_bareRule {P : Rule → Prop} (hP : ∀ q, q.dests = [] → P q) :
    (bareRule base r).Each P ↔ P (.collect (collector base r) (writer r)) := by
  rw [bareRule_eq, Rule.each_all, List.forall_mem_append, List.forall_mem_singleton]
  exact ⟨fun h => h.2.2.root, fun h => ⟨hP _ rfl, fun q hq => .mono hP (dests_front base r q hq),
    (Rule.each_iff_of_subrules rfl).mpr h⟩⟩

/-- What holds of all rules that write nothing, of what stores the values of an argument and of what
records its tokens holds of the whole rule. -/
theorem each_build {P : Rule → Prop} (hP : ∀ q, q.dests = [] → P q)
    (hcollect : P (.collect (collector base r) (writer r)))
    (hcapture : ∀ rule format handler, P (.capture (base + 7) r.rawDest rule format handler)) :
    (build base r).rule.Each P := by
  have hbare := (each_bareRule hP).mpr hcollect
  obtain heq | ⟨handler, heq⟩ := rule_build_cases base r
  · rw [heq]
    exact hbare
  · rw [heq]
    exact (Rule.each_capture ..).mpr ⟨hcapture _ _ _, hbare⟩

theorem collect_of_each_build {P : Rule → Prop} (hP : ∀ q, q.dests = [] → P q)
    (h : (build base r).rule.Each P) : P (.collect (collector base r) (writer r)) := by
  refine (each_bareRule hP).mp ?_
  obtain heq | ⟨handler, heq⟩ := rule_build_cases base r
  · rwa [heq] at h
  · rw [heq] at h
    exact ((Rule.each_capture ..).mp h).2

/-- Before its tokens are recorded, an argument writes its destination. -/
theorem spares_bareRule (h : name ≠ r.dest.getD (anonymousDest base)) :
    (bareRule base r).Spares name := by
  refine (each_bareRule fun q hq => ?_).mpr (mt List.mem_singleton.mp h)
  rw [hq]
  exact List.not_mem_nil

/-- An argument that stores elsewhere has another destination. -/
theorem ne_dest_of_build (h : (build base r).rule.Each (·.stores? ≠ some name)) :
    name ≠ r.dest.getD (anonymousDest base) := by
  have hother : ∀ q : Rule, q.dests = [] → q.stores? ≠ some name := by
    intro q hq
    cases q with
    | collect collector handler => cases hq
    | _ => exact Option.some_ne_none _ ∘ Eq.symm
  have hstores := collect_of_each_build hother h
  rintro rfl
  exact hstores rfl

/-- The validators of an argument are about its destination. -/
theorem dest_of_mem_build {v : Validator} (hv : v ∈ (build base r).validators) :
    v.dest = r.dest.getD (anonymousDest base) := by
  simp only [build, List.mem_append] at hv
  rcases hv with ((hv | hv) | hv) | hv
  · rw [countValidators] at hv
    split at hv
    · obtain rfl := List.mem_singleton.mp hv
      rfl
    · cases hv
  · obtain ⟨value, -, rfl⟩ := Option.map_eq_some_iff.mp (Option.mem_toList.mp hv)
    rfl
  · split at hv
    · obtain rfl := List.mem_singleton.mp hv
      rfl
    · cases hv
  · split at hv
    · obtain rfl := List.mem_singleton.mp hv
      rfl
    · cases hv

/-- The validators of an argument change its destination only. -/
theorem writes_build (h : name ≠ r.dest.getD (anonymousDest base)) :
    ∀ v ∈ (build base r).validators, v.writes? ≠ some name :=
  fun _ hv => Validator.writes?_ne (dest_of_mem_build hv ▸ h.symm)

/-- The consumed tokens are recorded as they were spelled before the match. -/
theorem spelling_build (hr : r.Handlers Handler.BuiltIn) (hdest : r.rawDest = [name])
    (hformat : r.rawFormat = none) (hhandler : ∀ h ∈ r.rawHandler, h = .appendOrExtend)
    (hname : name ≠ r.dest.getD (anonymousDest base)) :
    (build base r).rule.run.Ensures (Content.Spelling name) := by
  have hsound := sound_bareRule (fun _ h => h) hr base
  have hkeeps := (respelled_bareRule (hr.mono fun _ => Handler.leaves_tokens_of_builtIn) base).and
    (hsound.library.attribute_eq (spares_bareRule hname))
  have hbuiltIn : Handler.appendOrExtend.BuiltIn := trivial
  have hcapture : (build base r).rule =
      .capture (base + 7) [name] (bareRule base r) none .appendOrExtend := by
    have hget : r.rawHandler.getD .appendOrExtend = .appendOrExtend := by
      cases h : r.rawHandler with
      | none => rfl
      | some handler => exact hhandler handler h
    rw [rule_build, withCapture, hdest, hformat, hget]
    rfl
  rw [hcapture, Rule.run]
  refine (hkeeps.captureStep hsound.library.orderly hbuiltIn).mono ?_
  rintro c _ ⟨d, consumed, ⟨hrespelled, hattribute⟩, hconsumed, rfl⟩ texts taken hne htokens hspells
  obtain ⟨hmove, hend, htake⟩ := hrespelled.take_eq hne htokens
  obtain rfl : consumed = taken := (hconsumed hmove hend).trans htake
  have hwrites : RawFormat.writes [name] none consumed = [(name, .ofTexts consumed)] := by
    have htruthy : (RawFormat.record none consumed).truthy = true := by
      simpa [RawFormat.record, Value.truthy, Value.ofTexts] using hne
    rw [RawFormat.writes, if_pos htruthy]
    rfl
  have hwritten : (d.writeAll .appendOrExtend [(name, .ofTexts consumed)]).attributes.get? name =
      some (.list (((d.attributes.get? name).map Value.toList).getD [] ++
        Handler.spread (.ofTexts consumed))) := d.attributes.get?_set_self name _
  rw [hwrites, hwritten, hattribute]
  exact hspells.add (Value.flatMap_spread consumed)

variable {trueSuffix falseSuffix : String} {action : Action} {d : Declaration}

/-- An argument that records in the attribute and stores elsewhere adds the tokens that it consumes
to the attribute, and its validators leave the attribute alone. -/
theorem spelling_applyAction (hr : r.Handlers Handler.BuiltIn) (hdest : r.rawDest = [name])
    (hformat : r.rawFormat = none) (hhandler : ∀ h ∈ r.rawHandler, h = .appendOrExtend)
    (happly : applyAction base r trueSuffix falseSuffix action = .ok d)
    (hstores : d.rule.Each (·.stores? ≠ some name)) :
    d.rule.run.Ensures (Content.Spelling name) ∧ ∀ v ∈ d.validators, v.writes? ≠ some name := by
  have hbuild {base : Nat} {s : ResolvedArgument} (hs : r.Alike s)
      (hstores : (build base s).rule.Each (·.stores? ≠ some name)) :
      (build base s).rule.run.Ensures (Content.Spelling name) ∧
        ∀ v ∈ (build base s).validators, v.writes? ≠ some name := by
    have hname := ne_dest_of_build hstores
    exact ⟨spelling_build (hs.handlers hr) (hs.rawDest.trans hdest) (hs.rawFormat.trans hformat)
      (hs.rawHandler ▸ hhandler) hname, writes_build hname⟩
  obtain ⟨s, hs, rfl⟩ | rfl := applyAction_cases happly
  · exact hbuild hs hstores
  · obtain ⟨hon, hoff⟩ := List.forall_mem_cons.mp ((Rule.each_any ..).mp hstores).2
    obtain ⟨hruleOn, hvalidatorsOn⟩ := hbuild (alike_flagVariant r true trueSuffix) hon
    obtain ⟨hruleOff, hvalidatorsOff⟩ := hbuild (alike_flagVariant r false falseSuffix)
      (List.forall_mem_singleton.mp hoff)
    refine ⟨?_, List.forall_mem_append.mpr ⟨hvalidatorsOn, hvalidatorsOff⟩⟩
    have hsound := sound_flagPair (fun _ h => h) hr base trueSuffix falseSuffix
    show (Rule.any _ _).run.Ensures _
    rw [Rule.run]
    exact Rule.ensures_runAny
      (List.forall_mem_cons.mpr ⟨hruleOn, List.forall_mem_singleton.mpr hruleOff⟩)
      fun q hq => (hsound.library.subs q hq).orderly

end Declaration

/-! ## Parses -/

/-- The rounds of a lenient parse record what they match and what they skip. -/
theorem TokenParser.Split.spells {p : TokenParser} {name : String} {st st' : State}
    {spans : List TokenParser.Span} {texts : List String}
    (h : p.Split (.lenient [name]) st spans st')
    (hrules : ∀ r ∈ p.rules, r.run.Ensures (Content.Spelling name))
    (hspells : Value.Spells (st.attributes.get? name) texts) :
    Value.Spells (st'.attributes.get? name) (texts ++ spans.flatMap Span.tokens) := by
  induction h generalizing texts with
  | nil => simpa using hspells
  | @matched st mid st' rule taken spans first alone _ nonempty consumes _ ih =>
    have hmid : Value.Spells (mid.attributes.get? name) (texts ++ taken) :=
      hrules rule (List.mem_of_find?_eq_some first) st mid (run_of_alone alone) texts taken nonempty
        consumes hspells
    rw [List.flatMap_cons, ← List.append_assoc]
    exact ih hmid
  | @skipped st mid st' token spans _ skips _ _ ih =>
    have hmid : Value.Spells (mid.attributes.get? name) (texts ++ [token]) := by
      rw [get?_of_skip skips List.count_singleton_self]
      exact hspells.add rfl
    rw [List.flatMap_cons, ← List.append_assoc]
    exact ih hmid

namespace ArgumentParser

open TokenParser

/-- Every argument records its tokens in the attribute, as lists of them, and has handlers that are
built in. -/
def RecordsIn (calls : List Call) (name : String) : Prop :=
  ∀ settings a, Call.argument settings a ∈ calls → a.Handlers Handler.BuiltIn ∧
    a.rawDest = some [name] ∧ a.rawFormat = none ∧ ∀ h ∈ a.rawHandler, h = .appendOrExtend

/-- The rules of such arguments record what they consume, and no validator changes the
attribute. -/
theorem Declares.spelling {q : ArgumentParser} {calls : List Call} {name : String}
    (h : q.Declares calls) (hrecords : RecordsIn calls name)
    (hstores : ∀ r ∈ q.rules, r.Each (·.stores? ≠ some name))
    (hdefault : ∀ value, Call.default name value ∉ calls) :
    (∀ r ∈ q.rules, r.run.Ensures (Content.Spelling name)) ∧
      ∀ v ∈ q.validators, v.writes? ≠ some name := by
  have hof {d : Declaration} (hd : d.Of calls) (hmem : d.rule ∈ q.rules) :
      d.rule.run.Ensures (Content.Spelling name) ∧ ∀ v ∈ d.validators, v.writes? ≠ some name := by
    obtain ⟨settings, a, base, r, trueSuffix, falseSuffix, action, hcall, hresolve, happly⟩ := hd
    obtain ⟨hhandlers, hdest, hformat, hhandler⟩ := hrecords settings a hcall
    obtain ⟨-, hrdest, hrformat, hrhandler⟩ := Declaration.resolve_keeps hresolve
    exact Declaration.spelling_applyAction (Declaration.handlers_resolve hhandlers hresolve)
      (hrdest.trans (congrArg (·.getD []) hdest)) (hrformat.trans hformat) (hrhandler ▸ hhandler)
      happly (hstores _ hmem)
  refine ⟨fun r hr => ?_, fun v hv => ?_⟩
  · obtain ⟨d, hd, rfl⟩ := h.compiled.1 r hr
    exact (hof hd hr).1
  · obtain ⟨dest, value, hmem, rfl⟩ | ⟨d, hd, hmem, hv⟩ := h.compiled.2 v hv
    · intro heq
      obtain rfl := Option.some.inj heq
      exact hdefault value hmem
    · exact (hof hd hmem).2 v hv

/-- Where all arguments record their tokens in an attribute that nothing else writes, a lenient
parse that records skipped tokens there as well leaves the command line in it. -/
theorem Declares.spells_commandLine {q : ArgumentParser} {calls : List Call} {name : String}
    (h : q.Declares calls) (hrecords : RecordsIn calls name)
    (hstores : ∀ r ∈ q.rules, r.Each (·.stores? ≠ some name))
    (hdefault : ∀ value, Call.default name value ∉ calls) (tokens : List String)
    {seed : Option Namespace} (hseed : (seed.getD .empty).get? name = none) :
    ∃ ns unparsed, (q.parseKnown tokens seed [name]).1 = .ok (ns, unparsed) ∧
      Value.Spells (ns.get? name) tokens := by
  have hhandlers : ∀ call ∈ calls, call.Handlers Handler.BuiltIn := by
    intro call hcall
    cases call with
    | argument settings a => exact (hrecords settings a hcall).1
    | default dest value => trivial
  obtain ⟨hrules, hvalidators⟩ := h.spelling hrecords hstores hdefault
  obtain ⟨spans, st, ns, hsplit, htokens, hns, hparse⟩ :=
    (h.built hhandlers).conserving.parseLenient_eq tokens seed [name]
  rw [h.compile_eq] at hsplit hns
  have hstart : Value.Spells ((State.start tokens seed).attributes.get? name) [] :=
    ⟨[], .inl ⟨hseed, rfl⟩, rfl⟩
  refine ⟨ns, _, hparse, ?_⟩
  rw [get?_validate hvalidators hns, ← htokens]
  exact hsplit.spells hrules hstart

/-- The level and then the flag, which record their tokens. -/
def recordedLevels : Except GrammarError ArgumentParser := do
  let (_, p) ← (({} : ArgumentParser).setRawDest ["raw"]).addArgument level
  let (_, q) ← p.addArgument small
  return q

/-- The level takes a token of its own, an empty one is skipped, the level takes two more, and the
flag is skipped. All of them are recorded. -/
theorem Declares.spells_commandLine_levels :
    ∃ q, recordedLevels = .ok q ∧ ∃ ns unparsed,
      (q.parseKnown ["-O1", "", "-O", "2", "-Os"] none ["raw"]).1 = .ok (ns, unparsed) ∧
        Value.Spells (ns.get? "raw") ["-O1", "", "-O", "2", "-Os"] := by
  have heval : recordedLevels.toOption.map (fun q =>
      decide (∀ r ∈ q.rules, r.Each (·.stores? ≠ some "raw"))) = some true := by decide +kernel
  cases hq : recordedLevels with
  | error e =>
    rw [hq] at heval
    cases heval
  | ok q =>
    rw [hq] at heval
    have hstores := of_decide_eq_true (Option.some.inj heval)
    obtain ⟨⟨_, p⟩, hlevel, hrest⟩ := Declaration.bind_eq_ok.mp hq
    obtain ⟨⟨_, q⟩, hsmall, hrest⟩ := Declaration.bind_eq_ok.mp hrest
    obtain rfl := Except.ok.inj hrest
    -- the flag inherits what the level has left as it was
    obtain ⟨d, -, -, rfl⟩ := addArgument_eq_ok.mp hlevel
    have hnew : (({} : ArgumentParser).setRawDest ["raw"]).Declares [] := .tune _ _ .new
    have hdeclares := (hnew.addArgument hlevel).addArgument hsmall
    have hnone : ∀ h ∈ (none : Option Handler), h.BuiltIn :=
      fun h hmem => absurd hmem (Option.not_mem_none h)
    refine ⟨q, rfl, Declares.spells_commandLine hdeclares ?_ hstores ?_ _ rfl⟩
    · intro settings a ha
      simp only [List.nil_append, List.cons_append, List.mem_cons, List.not_mem_nil, or_false,
        Call.argument.injEq] at ha
      obtain ⟨-, rfl⟩ | ⟨-, rfl⟩ := ha <;>
        exact ⟨⟨hnone, hnone⟩, rfl, rfl, fun h hmem => absurd hmem (Option.not_mem_none h)⟩
    · simp

end ArgumentParser

end TokenGrammar
