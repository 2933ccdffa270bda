import TokenGrammar.Proofs.Dispatch
import TokenGrammar.Proofs.Respelling
import TokenGrammar.Proofs.Validation

/-!
# Conservation of tokens

A parse loses no token and makes none up. It cuts the tokens into spans, each of which one rule
matched or is a single token that was skipped.

* `TokenParser.Span`, `TokenParser.Split`: the spans between two states of a parse, with the rounds
  that made them;
* `TokenParser.Split.remaining_eq`: the spans and what is left make up the tokens;
* `TokenParser.Conserving.split_lenient`, `TokenParser.Conserving.split_strict`: the rounds of a
  parse make spans, by induction on them;
* `TokenParser.Split.attribute_eq`: what an attribute holds that nothing but the loop writes;
* `ArgumentParser.Built.conserves_tokens`: all of this for the grammars of declared arguments.
-/

namespace TokenGrammar

namespace TokenParser

/-! ## Spans -/

/-- A stretch of the tokens. -/
inductive Span where
  /-- What a rule consumed in one match. -/
  | matched (rule : Rule) (tokens : List String)
  /-- A token that no rule matched. -/
  | skipped (token : String)

namespace Span

/-- The tokens of a span. -/
def tokens : Span → List String
  | matched _ tokens => tokens
  | skipped token => [token]

/-- The token, if it was skipped. -/
def skipped? : Span → Option String
  | matched _ _ => none
  | skipped token => some token

end Span

/-- The rounds of a parse from one state to another, with the spans that they cut off in front. A
round takes the first rule that matches alone, or gives up on one token where the loop finds no
match. -/
inductive Split (p : TokenParser) (mode : Mode) : State → List Span → State → Prop where
  | nil {st : State} : Split p mode st [] st
  | matched {st mid st' : State} {rule : Rule} {taken : List String} {spans : List Span}
      (first : p.rules.find? (fun r => (r.alone st).isSome) = some rule)
      (alone : rule.alone st = some mid) (advances : p.advance st = .ok true mid)
      (nonempty : taken ≠ []) (consumes : st.tokens.remaining = taken ++ mid.tokens.remaining)
      (rest : Split p mode mid spans st') : Split p mode st (.matched rule taken :: spans) st'
  | skipped {st mid st' : State} {token : String} {spans : List Span}
      (stuck : p.advance st = .ok false st) (skips : skip mode st = .ok [token] mid)
      (consumes : st.tokens.remaining = token :: mid.tokens.remaining)
      (rest : Split p mode mid spans st') : Split p mode st (.skipped token :: spans) st'

namespace Split

variable {p : TokenParser} {mode : Mode} {st st' : State} {spans : List Span}

/-- The spans and what is left behind them make up the tokens. -/
theorem remaining_eq (h : p.Split mode st spans st') :
    st.tokens.remaining = spans.flatMap Span.tokens ++ st'.tokens.remaining := by
  induction h with
  | nil => rfl
  | matched _ _ _ _ consumes _ ih =>
    rw [consumes, ih, List.flatMap_cons, List.append_assoc]
    rfl
  | skipped _ _ consumes _ ih =>
    rw [consumes, ih, List.flatMap_cons, List.append_assoc]
    rfl

theorem tokens_ne_nil (h : p.Split mode st spans st') : ∀ s ∈ spans, s.tokens ≠ [] := by
  induction h with
  | nil => exact fun s hs => absurd hs List.not_mem_nil
  | matched _ _ _ nonempty _ _ ih => exact List.forall_mem_cons.mpr ⟨nonempty, ih⟩
  | skipped _ _ _ _ ih => exact List.forall_mem_cons.mpr ⟨List.cons_ne_nil _ _, ih⟩

end Split

/-! ## Rounds that cut off spans -/

/-- The rules of the parser are library rules that respell the token in front at most. -/
structure Conserving (p : TokenParser) : Prop where
  library : ∀ r ∈ p.rules, r.Library Handler.BuiltIn ∧ r.Apart
  respelled : ∀ r ∈ p.rules, r.run.Ensures fun c d => c.tokens.Respelled d.tokens

/-- The state after the first rule that matches is that of a rule. -/
theorem find?_of_firstMatch {rules : List Rule} {st mid : State}
    (h : Rule.firstMatch rules st = some mid) :
    ∃ rule, rules.find? (fun r => (r.alone st).isSome) = some rule ∧ rule.alone st = some mid := by
  obtain ⟨before, rule, after, rfl, halone, hbefore⟩ := List.findSome?_eq_some_iff.mp h
  refine ⟨rule, List.find?_eq_some_iff_append.mpr ⟨?_, before, after, rfl, fun r hr => ?_⟩, halone⟩
  · rw [halone]
    rfl
  · rw [hbefore r hr]
    rfl

theorem run_of_alone {rule : Rule} {st mid : State} (h : rule.alone st = some mid) :
    rule.run st = .ok true mid := by
  rw [Rule.alone] at h
  split at h
  · rename_i st' hrun
    obtain rfl := Option.some.inj h
    exact hrun
  · cases h

namespace Conserving

variable {p : TokenParser} {st st' mid : State} {unparsed : List String}

theorem sound (h : p.Conserving) : p.Sound := sound_of_builtIn h.library

/-- A round that consumes cuts off what its rule has consumed. -/
theorem matched (h : p.Conserving) (hst : st.savepoints = [])
    (hfirst : Rule.firstMatch p.rules st = some mid) (hlt : mid.tokens.size < st.tokens.size) :
    ∃ rule taken, p.rules.find? (fun r => (r.alone st).isSome) = some rule ∧
      rule.alone st = some mid ∧ p.advance st = .ok true mid ∧ mid.savepoints = [] ∧ taken ≠ [] ∧
      st.tokens.remaining = taken ++ mid.tokens.remaining := by
  obtain ⟨rule, hfind, halone⟩ := find?_of_firstMatch hfirst
  obtain ⟨hadv, hsps⟩ := h.sound.advance_of_first hst hfirst hlt
  have hrespelled : st.tokens.Respelled mid.tokens :=
    h.respelled rule (List.mem_of_find?_eq_some hfind) st mid (run_of_alone halone)
  have hmove := hrespelled.cursor_lt hlt
  refine ⟨rule, st.tokens.remaining.take (mid.tokens.cursor - st.tokens.cursor), hfind, halone,
    hadv, hsps, fun hnil => ?_, ?_⟩
  · have hleft : st.tokens.remaining.length ≠ 0 := by
      rw [TokenBuffer.length_remaining]
      omega
    have htake : (st.tokens.remaining.take (mid.tokens.cursor - st.tokens.cursor)).length = 0 := by
      rw [hnil, List.length_nil]
    rw [List.length_take] at htake
    omega
  · rw [hrespelled.remaining_eq hmove, List.take_append_drop]

/-- The rounds of a lenient parse cut the tokens into spans, and it gives back those that it
skipped. -/
theorem split_lenient (h : p.Conserving) {dests : List String} (hst : st.savepoints = [])
    (hscan : Scan (.lenient dests) p.rules st unparsed st') :
    ∃ spans, p.Split (.lenient dests) st spans st' ∧
      unparsed = spans.filterMap Span.skipped? := by
  induction hscan with
  | done => exact ⟨[], .nil, rfl⟩
  | matched _ first consumes _ ih =>
    obtain ⟨rule, taken, hfind, halone, hadv, hsps, hne, htokens⟩ := h.matched hst first consumes
    obtain ⟨spans, hsplit, rfl⟩ := ih hsps
    exact ⟨_, .matched hfind halone hadv hne htokens hsplit, rfl⟩
  | @skipped st mid st' unparsed left stuck skips _ ih =>
    obtain ⟨mid', hskip, -, hsps⟩ := skip_eq (.lenient dests) left
    obtain ⟨-, rfl⟩ := EStateM.Result.ok.inj (hskip.symm.trans skips)
    obtain ⟨spans, hsplit, rfl⟩ := ih (hsps hst)
    obtain ⟨token, rest, htokens⟩ := exists_next left
    rw [take_skipCount_lenient dests htokens] at skips ⊢
    exact ⟨.skipped token :: spans, .skipped (h.sound.advance_of_stuck hst stuck) skips
      (remaining_of_skip skips) hsplit, rfl⟩

/-- The rounds of a strict parse cut off spans that were matched, up to the first position where the
loop finds no match. There it gives up on all that is left. -/
theorem split_strict (h : p.Conserving) (hst : st.savepoints = [])
    (hscan : Scan .strict p.rules st unparsed st') :
    ∃ spans here, p.Split .strict st spans here ∧ (∀ s ∈ spans, s.skipped? = none) ∧
      unparsed = here.tokens.remaining ∧ (unparsed ≠ [] → p.advance here = .ok false here) := by
  induction hscan with
  | @done st none_left =>
    exact ⟨[], st, .nil, fun s hs => absurd hs List.not_mem_nil,
      ((TokenBuffer.isEmpty_iff _).mp none_left).symm, absurd rfl⟩
  | matched _ first consumes _ ih =>
    obtain ⟨rule, taken, hfind, halone, hadv, hsps, hne, htokens⟩ := h.matched hst first consumes
    obtain ⟨spans, here, hsplit, hmatched, hrest⟩ := ih hsps
    exact ⟨_, here, .matched hfind halone hadv hne htokens hsplit,
      List.forall_mem_cons.mpr ⟨rfl, hmatched⟩, hrest⟩
  | @skipped st mid st' unparsed left stuck skips rest ih =>
    -- all that is left is skipped, so the rounds after it find nothing
    rw [take_skipCount_strict] at skips
    have hmid : mid.tokens.remaining = [] := by simpa using remaining_of_skip skips
    have hempty : unparsed = [] := by
      cases rest with
      | done => rfl
      | matched left | skipped left =>
        obtain ⟨token, rest, htokens⟩ := exists_next left
        cases hmid.symm.trans htokens
    refine ⟨[], st, .nil, fun s hs => absurd hs List.not_mem_nil, ?_,
      fun _ => h.sound.advance_of_stuck hst stuck⟩
    rw [take_skipCount_strict, hempty, List.append_nil]

end Conserving

/-! ## What the loop records -/

/-- The value of an attribute to which tokens are added one by one; a scalar counts as a list of
one. Without tokens it stays as it is. -/
def extended (value? : Option Value) (tokens : List String) : Option Value :=
  if tokens = [] then value?
  else some (.list ((value?.map Value.toList).getD [] ++ tokens.map .str))

theorem extended_cons (value? : Option Value) (token : String) (tokens : List String) :
    extended (extended value? [token]) tokens = extended value? (token :: tokens) := by
  cases tokens with
  | nil => rfl
  | cons next rest => simp [extended]

theorem get?_extend (st : State) (dest name : String) (taken : List String) :
    (st.extend dest (.ofTexts taken)).attributes.get? name =
      if name = dest then some (.list (st.items dest ++ taken.map .str))
      else st.attributes.get? name :=
  st.attribute?_set dest name _

theorem get?_record_of_not_mem {dests : List String} {name : String} (h : name ∉ dests)
    (taken : List String) (st : State) :
    (dests.foldl (fun st dest => st.extend dest (.ofTexts taken)) st).attributes.get? name =
      st.attributes.get? name := by
  induction dests generalizing st with
  | nil => rfl
  | cons dest dests ih =>
    obtain ⟨hne, hnot⟩ := not_or.mp (mt List.mem_cons.mpr h)
    rw [List.foldl_cons, ih hnot, get?_extend, if_neg hne]

/-- An attribute that is named once gets the tokens once. -/
theorem get?_record_of_count {dests : List String} {name : String} (h : dests.count name = 1)
    (taken : List String) (st : State) :
    (dests.foldl (fun st dest => st.extend dest (.ofTexts taken)) st).attributes.get? name =
      some (.list (st.items name ++ taken.map .str)) := by
  induction dests generalizing st with
  | nil => cases h
  | cons dest dests ih =>
    rw [List.foldl_cons]
    by_cases hdest : dest = name
    · subst hdest
      have hnot : dest ∉ dests := by
        rw [List.count_cons_self] at h
        exact List.count_eq_zero.mp (Nat.succ.inj h)
      rw [get?_record_of_not_mem hnot, get?_extend, if_pos rfl]
    · rw [List.count_cons_of_ne hdest] at h
      have hitems : (st.extend dest (.ofTexts taken)).items name = st.items name := by
        have hget := get?_extend st dest name taken
        rw [if_neg (Ne.symm hdest)] at hget
        rw [State.items, State.items, State.attribute?, State.attribute?, hget]
      rw [ih h, hitems]

/-- A skip adds its token to each attribute that is named for it. -/
theorem get?_of_skip {dests : List String} {name token : String} {st mid : State}
    (h : skip (.lenient dests) st = .ok [token] mid) (hname : dests.count name = 1) :
    mid.attributes.get? name = extended (st.attributes.get? name) [token] := by
  obtain ⟨behind, rfl, ⟨hnil, -⟩ | ⟨buffer, -, rfl⟩⟩ := skip_eq_ok h
  · cases hnil
  · exact get?_record_of_count hname [token] _

/-- An attribute that no rule writes, and that is named once for skipped tokens, gets the tokens
that are skipped. -/
theorem Split.attribute_eq {p : TokenParser} {dests : List String} {st st' : State}
    {spans : List Span} (h : p.Split (.lenient dests) st spans st')
    (hlibrary : ∀ r ∈ p.rules, r.Library Handler.BuiltIn) {name : String}
    (hspares : ∀ r ∈ p.rules, r.Spares name) (hname : dests.count name = 1) :
    st'.attributes.get? name =
      extended (st.attributes.get? name) (spans.filterMap Span.skipped?) := by
  induction h with
  | nil => rfl
  | @matched st mid st' rule taken spans first alone _ _ _ _ ih =>
    have hrule := List.mem_of_find?_eq_some first
    have hkept : mid.attributes.get? name = st.attributes.get? name :=
      (hlibrary rule hrule).attribute_eq (hspares rule hrule) st mid (run_of_alone alone)
    rw [ih, hkept]
    rfl
  | @skipped st mid st' token spans _ skips _ _ ih =>
    rw [ih, get?_of_skip skips hname]
    exact extended_cons _ token _

/-- Neither a rule nor a validator writes the attribute. -/
def Spares (p : TokenParser) (name : String) : Prop :=
  (∀ r ∈ p.rules, r.Spares name) ∧ ∀ v ∈ p.validators, v.writes? ≠ some name

instance (p : TokenParser) (name : String) : Decidable (p.Spares name) :=
  inferInstanceAs (Decidable ((∀ r ∈ p.rules, r.Spares name) ∧
    ∀ v ∈ p.validators, v.writes? ≠ some name))

/-! ## Whole parses -/

namespace Conserving

variable {p : TokenParser}

/-- A lenient parse cuts all tokens into spans and gives back those that it skipped. -/
theorem parseLenient_eq (h : p.Conserving) (tokens : List String) (seed : Option Namespace)
    (dests : List String) :
    ∃ spans st ns, p.Split (.lenient dests) (.start tokens seed) spans st ∧
      spans.flatMap Span.tokens = tokens ∧
      validate (.lenient dests) p.validators st.attributes = .ok ns ∧
      p.parseLenient tokens seed dests = .ok (ns, spans.filterMap Span.skipped?) := by
  obtain ⟨unparsed, st, hscan, hparse⟩ := h.sound.parse_eq (.lenient dests) tokens seed
  obtain ⟨spans, hsplit, rfl⟩ := h.split_lenient rfl hscan
  obtain ⟨ns, hns⟩ := validate_lenient dests p.validators st.attributes
  have hend : st.tokens.remaining = [] :=
    (TokenBuffer.isEmpty_iff _).mp (h.sound.scan_end rfl hscan).2
  refine ⟨spans, st, ns, hsplit, ?_, hns, ?_⟩
  · rw [← List.append_nil (spans.flatMap Span.tokens), ← hend, ← hsplit.remaining_eq]
    rfl
  · rw [parseLenient, hparse, hns]
    rfl

/-- A strict parse that leaves tokens has matched all the spans in front of them, and finds no match
where they start. -/
theorem parseStrict_unparsed (h : p.Conserving) {tokens unparsed : List String}
    {seed : Option Namespace}
    (hparse : p.parseStrict tokens seed = .error (.unparsedTokens unparsed)) :
    ∃ spans here, p.Split .strict (.start tokens seed) spans here ∧
      (∀ s ∈ spans, s.skipped? = none) ∧ p.advance here = .ok false here ∧
      unparsed = here.tokens.remaining ∧ unparsed ≠ [] := by
  obtain ⟨left, st, hscan, heq⟩ := h.sound.parse_eq .strict tokens seed
  obtain ⟨spans, here, hsplit, hmatched, hleft, hstuck⟩ := h.split_strict rfl hscan
  rw [parseStrict, heq] at hparse
  by_cases hne : left = []
  · -- all tokens are consumed, and no validator complains about tokens
    rw [if_neg fun h => h.2 hne] at hparse
    obtain ⟨ns, hns, -⟩ | ⟨e, hfirst, hns⟩ := validate_strict_cases p.validators st.attributes
    · rw [hns] at hparse
      cases hparse
    · rw [hns] at hparse
      obtain rfl : e = .unparsedTokens unparsed := Except.error.inj hparse
      exact hfirst.ofValidator.elim
  · rw [if_pos ⟨rfl, hne⟩] at hparse
    obtain rfl : left = unparsed := Error.unparsedTokens.inj (Except.error.inj hparse)
    exact ⟨spans, here, hsplit, hmatched, hstuck hne, hleft, hne⟩

end Conserving

end TokenParser

/-! ## Declared arguments -/

namespace ArgumentParser

open TokenParser

theorem Built.conserving {q : ArgumentParser} (h : q.Built Handler.BuiltIn) :
    q.compile.Conserving := by
  obtain ⟨calls, hcalls, hhandlers⟩ := h.declares
  refine ⟨fun r hr => ?_, fun r hr => ?_⟩
  · rw [h.rules_compile] at hr
    exact h.sound (fun _ hb => hb) r hr
  · exact hcalls.respelled (fun call hcall =>
      (hhandlers call hcall).mono fun _ => Handler.orderly_leaves_of_builtIn) r hr

/-- A lenient parse cuts the tokens into spans, each of them matched by one declared rule or a
skipped token, and gives back the tokens that it skipped. A strict parse that leaves tokens leaves
those from the first position on where no match is found. -/
theorem Built.conserves_tokens {q : ArgumentParser} (h : q.Built Handler.BuiltIn)
    (tokens : List String) (seed : Option Namespace) :
    (∀ dests, ∃ spans st ns, q.compile.Split (.lenient dests) (.start tokens seed) spans st ∧
      spans.flatMap Span.tokens = tokens ∧ (∀ s ∈ spans, s.tokens ≠ []) ∧
      (q.parseKnown tokens seed dests).1 = .ok (ns, spans.filterMap Span.skipped?) ∧
      ∀ name, dests.count name = 1 → q.compile.Spares name →
        ns.get? name =
          extended ((seed.getD .empty).get? name) (spans.filterMap Span.skipped?)) ∧
      ∀ unparsed, (q.parse tokens seed).1 = .error (.unparsedTokens unparsed) →
        ∃ spans here, q.compile.Split .strict (.start tokens seed) spans here ∧
          (∀ s ∈ spans, s.skipped? = none) ∧ q.compile.advance here = .ok false here ∧
          unparsed = here.tokens.remaining ∧ unparsed ≠ [] ∧
          tokens = spans.flatMap Span.tokens ++ unparsed := by
  refine ⟨fun dests => ?_, fun unparsed hparse => ?_⟩
  · obtain ⟨spans, st, ns, hsplit, htokens, hns, hparse⟩ :=
      h.conserving.parseLenient_eq tokens seed dests
    refine ⟨spans, st, ns, hsplit, htokens, hsplit.tokens_ne_nil, hparse, ?_⟩
    intro name hname hspares
    rw [get?_validate hspares.2 hns]
    exact hsplit.attribute_eq (fun r hr => (h.conserving.library r hr).1) hspares.1 hname
  · obtain ⟨spans, here, hsplit, hmatched, hstuck, rfl, hne⟩ :=
      h.conserving.parseStrict_unparsed hparse
    exact ⟨spans, here, hsplit, hmatched, hstuck, rfl, hne, hsplit.remaining_eq⟩

/-- The level takes a token of its own. The flag behind it is skipped and is added to the attribute
for unknown tokens, or is left by a strict parse. -/
theorem Built.conserves_tokens_levels :
    ∃ q, levels = .ok q ∧ q.Built Handler.BuiltIn ∧
      (∃ (spans : List Span) (ns : Namespace), spans.flatMap Span.tokens = ["-O1", "-Os"] ∧
        spans.filterMap Span.skipped? = ["-Os"] ∧
        (q.parseKnown ["-O1", "-Os"] (some (.ofList [("rest", .str "-v")])) ["rest"]).1 =
          .ok (ns, ["-Os"]) ∧
        ns.get? "rest" = some (.list [.str "-v", .str "-Os"])) ∧
      ∃ spans here, q.compile.Split .strict (.start ["-O1", "-Os"] none) spans here ∧
        q.compile.advance here = .ok false here ∧ here.tokens.remaining = ["-Os"] ∧
        spans.flatMap Span.tokens ++ ["-Os"] = ["-O1", "-Os"] := by
  have heval : levels.toOption.map (fun q =>
      ((q.parseKnown ["-O1", "-Os"] (some (.ofList [("rest", .str "-v")])) ["rest"]).1.map (·.2),
        decide (q.compile.Spares "rest"), (q.parse ["-O1", "-Os"] none).1)) =
      some (.ok ["-Os"], true, .error (.unparsedTokens ["-Os"])) := by decide +kernel
  cases hq : levels with
  | error e =>
    rw [hq] at heval
    cases heval
  | ok q =>
    rw [hq] at heval
    obtain ⟨hknown, hrest⟩ := Prod.mk.inj (Option.some.inj heval)
    obtain ⟨hspares, hstrict⟩ := Prod.mk.inj hrest
    have hbuilt : q.Built Handler.BuiltIn := built_levels hq
    obtain ⟨spans, -, ns, -, htokens, -, hparse, hnames⟩ :=
      (Built.conserves_tokens hbuilt ["-O1", "-Os"] (some (.ofList [("rest", .str "-v")]))).1
        ["rest"]
    obtain ⟨strictSpans, here, hsplit, -, hstuck, hleft, -, hstart⟩ :=
      (Built.conserves_tokens hbuilt ["-O1", "-Os"] none).2 ["-Os"] hstrict
    have hskipped : spans.filterMap Span.skipped? = ["-Os"] := by
      rw [hparse] at hknown
      exact Except.ok.inj hknown
    have hget := hnames "rest" rfl (of_decide_eq_true hspares)
    rw [hskipped] at hparse hget
    exact ⟨q, rfl, hbuilt, ⟨spans, ns, htokens, hskipped, hparse, hget⟩, strictSpans, here, hsplit,
      hstuck, hleft.symm, hstart.symm⟩

end ArgumentParser

end TokenGrammar
