import TokenGrammar.Proofs.Facade
import TokenGrammar.Proofs.Segmentation

/-!
# Occurrences of arguments

What the rule of an argument does with the tokens in front. An optional argument with a count that
is exact consumes its flag and just so many values, whatever they look like and whatever stands
behind them. A positional one consumes one token, or refuses it.

* `Collector.gather_exact`: values up to an exact count;
* `ResolvedArgument.Recognises`: the tokens that an optional argument starts with.
  `Declaration.denoteAny_recognisers` for what the rule does with them;
* `Declaration.does_optionalRule`, `Declaration.does_positionalRule`: the occurrences.
  `Declaration.does_optionalRule_none` and its like: where there is none.
-/

namespace TokenGrammar

/-! ## Updates -/

namespace Memory

/-- Writes a value to a destination. -/
def write (handler : Handler) (dest : String) (value : Value) (m : Memory) : Memory :=
  { m with attributes := handler.write dest value m.attributes }

/-- Counts one more match of a limit, unless its bound is met. -/
def count (id : Nat) (most : Option Nat) (m : Memory) : Option Memory :=
  if most.any (Int64.ofNat · ≤ m.scratch.count id) then none
  else some { m with
    scratch := m.scratch.set (.rule id) Rule.counterKey (.int (m.scratch.count id + 1)) }

end Memory

/-! ## Values -/

/-- What is stored for a token that is accepted. -/
def ValueFilter.value? (f : ValueFilter) (token : String) : Option Value :=
  if f.accepts token then f.valueOf? token else none

namespace ValueFilter

variable {f : ValueFilter} {token : String} {tokens : List String}

theorem value?_isSome : (f.value? token).isSome ↔ f.accepts token ∧ (f.valueOf? token).isSome := by
  rw [value?]
  split <;> simp [*]

theorem length_values (h : ∀ token ∈ tokens, (f.value? token).isSome) :
    (tokens.filterMap f.value?).length = tokens.length := by
  induction tokens with
  | nil => rfl
  | cons token tokens ih =>
    obtain ⟨htoken, htokens⟩ := List.forall_mem_cons.mp h
    obtain ⟨value, hvalue⟩ := Option.isSome_iff_exists.mp htoken
    rw [List.filterMap_cons_some hvalue, List.length_cons, List.length_cons, ih htokens]

end ValueFilter

namespace Collector

variable {collector : Collector} {n : Nat}

/-- Up to an exact count, accepted tokens are taken whatever they look like, and no more of them. -/
theorem gather_exact (hbounds : collector.bounds = ⟨n, some n⟩) {count : Nat}
    {tokens : List String} (hcount : count + tokens.length = n)
    (htokens : ∀ token ∈ tokens, (collector.filter.value? token).isSome) (rest : List String) :
    collector.gather count (tokens ++ rest) = tokens.filterMap collector.filter.value? := by
  induction tokens generalizing count with
  | nil =>
    have hmore : collector.bounds.allowsMore count = false := by
      simp only [List.length_nil] at hcount
      simp [Bounds.allowsMore, hbounds, ← hcount]
    rw [List.nil_append, List.filterMap_nil]
    cases rest with
    | nil => rfl
    | cons token rest => rw [gather, hmore]; rfl
  | cons token tokens ih =>
    obtain ⟨htoken, hlater⟩ := List.forall_mem_cons.mp htokens
    obtain ⟨haccepts, hvalue⟩ := ValueFilter.value?_isSome.mp htoken
    obtain ⟨value, hvalue⟩ := Option.isSome_iff_exists.mp hvalue
    rw [List.length_cons] at hcount
    have hmore : collector.bounds.allowsMore count = true := by
      simp only [Bounds.allowsMore, hbounds, decide_eq_true_eq]
      omega
    have hleast : ¬ collector.bounds.least ≤ count := by
      simp only [hbounds]
      omega
    have hhere : collector.filter.value? token = some value := by
      rw [ValueFilter.value?, if_pos haccepts, hvalue]
    rw [List.cons_append, gather, hmore, haccepts, hvalue, List.filterMap_cons_some hhere]
    simp only [Bool.not_true, Bool.or_self, Bool.false_eq_true, if_false, hleast, decide_false,
      Bool.and_false]
    rw [ih (by omega) hlater]

theorem gather_refused {token : String} (h : collector.filter.value? token = none)
    (count : Nat) (rest : List String) : collector.gather count (token :: rest) = [] := by
  rw [gather]
  rw [ValueFilter.value?] at h
  split
  · rfl
  · rename_i hmore
    have haccepts : collector.filter.accepts token = true := by
      simp only [Bool.or_eq_true, Bool.not_eq_true', not_or, Bool.not_eq_false] at hmore
      exact hmore.2
    rw [if_pos haccepts] at h
    rw [h]
    split <;> rfl

end Collector

namespace View

variable {collector : Collector} {n : Nat} {v : View} {rest : List String}

theorem collect_exact (hbounds : collector.bounds = ⟨n, some n⟩) {tokens : List String}
    (hcount : tokens.length = n)
    (htokens : ∀ token ∈ tokens, (collector.filter.value? token).isSome)
    (hv : v.tokens = tokens ++ rest) (handler : Handler) :
    v.collect collector handler = some ((v.memory.write handler collector.dest
      (.list (collector.stored (tokens.filterMap collector.filter.value?)))).before rest) := by
  have hgather : collector.gather 0 v.tokens = tokens.filterMap collector.filter.value? := by
    rw [hv]
    exact collector.gather_exact hbounds ((Nat.zero_add _).trans hcount) htokens rest
  have hlength : (collector.gather 0 v.tokens).length = tokens.length := by
    rw [hgather]
    exact ValueFilter.length_values htokens
  have henough : collector.enough v.tokens = true := by
    rw [Collector.enough, hlength, hbounds, hcount]
    exact decide_eq_true (Nat.le_refl n)
  rw [View.collect, henough]
  simp only [if_true, hlength]
  rw [hgather]
  have hdrop : v.tokens.drop tokens.length = rest := by
    rw [hv]
    exact List.drop_left
  rw [hdrop]
  rfl

/-- Where exactly one value is taken, it is that of the next token. -/
theorem collect_one (hbounds : collector.bounds = ⟨1, some 1⟩) {token : String}
    (hv : v.tokens = token :: rest) (handler : Handler) :
    v.collect collector handler = (collector.filter.value? token).map fun value =>
      (v.memory.write handler collector.dest (.list [value])).before rest := by
  cases hvalue : collector.filter.value? token with
  | none =>
    have henough : collector.enough v.tokens = false := by
      rw [Collector.enough, hv, collector.gather_refused hvalue, hbounds]
      rfl
    rw [View.collect, henough]
    rfl
  | some value =>
    have htokens : ∀ t ∈ [token], (collector.filter.value? t).isSome :=
      List.forall_mem_singleton.mpr (by rw [hvalue]; rfl)
    rw [collect_exact hbounds rfl htokens hv, List.filterMap_cons_some hvalue, List.filterMap_nil]
    have hstored : collector.stored [value] = [value] := by
      rw [Collector.stored, hbounds]
      split
      · rename_i h
        cases h
      · rfl
    rw [hstored]
    rfl

end View

/-! ## Optional arguments -/

namespace ResolvedArgument

/-- The token is one of the flags of an optional argument. -/
def HasFlag (r : ResolvedArgument) (token : String) : Prop :=
  match r.kind with
  | .optional flags _ =>
    Rule.isWord (if r.ignoreCase then flags.map Text.toLowerCase else flags) r.ignoreCase token
  | .positional _ => False

/-- The token is a prefix of an optional argument with a value behind it. -/
def HasFused (r : ResolvedArgument) (token : String) : Prop :=
  match r.kind with
  | .optional _ prefixes => r.nargs ≠ some (.exactly 0) ∧
      ∃ value, Rule.stripFirst? prefixes r.ignoreCase token = some value ∧ value ≠ ""
  | .positional _ => False

/-- An optional argument starts with the token. -/
def Recognises (r : ResolvedArgument) (token : String) : Prop :=
  r.HasFlag token ∨ r.HasFused token

/-- A flag is one in the spelling in which it was declared. -/
theorem hasFlag_of_mem {r : ResolvedArgument} {flags prefixes : List String}
    (hkind : r.kind = .optional flags prefixes) {flag : String} (h : flag ∈ flags) :
    r.HasFlag flag := by
  rw [HasFlag, hkind]
  refine decide_eq_true ?_
  cases r.ignoreCase with
  | true => exact List.mem_map_of_mem h
  | false => exact h

end ResolvedArgument

/-- A choice among more alternatives. -/
theorem Rule.denoteAny_append (rules more : List Rule) (v : View) :
    denoteAny (rules ++ more) v = (denoteAny rules v).or (denoteAny more v) := by
  induction rules with
  | nil => rfl
  | cons rule rules ih => rw [List.cons_append, denoteAny, denoteAny, ih, Option.or_assoc]

namespace Declaration

variable {base : Nat} {r : ResolvedArgument} {dest : String} {flags prefixes : List String}
  {token : String} {tokens rest : List String} {v : View}

theorem denote_flag (fold : Bool) (hv : v.tokens = token :: rest) (id : Nat) :
    (Rule.all id [.oneOf flags fold, .skip 1]).denote v =
      if Rule.isWord (if fold then flags.map Text.toLowerCase else flags) fold token then
        some (v.memory.before rest)
      else none := by
  simp only [Rule.denote, Rule.denoteAll, Rule.oneOf, View.testNext, hv, List.head?_cons,
    Option.any_some]
  cases Rule.isWord (if fold then flags.map Text.toLowerCase else flags) fold token with
  | true => simp [View.skip, hv, View.memory, Memory.before]
  | false => rfl

theorem denote_fused (fold : Bool) (hv : v.tokens = token :: rest) (id inner : Nat) :
    (Rule.all id [.removePrefix prefixes fold, .not inner .isEmpty]).denote v =
      ((Rule.stripFirst? prefixes fold token).filter (· ≠ "")).map fun value =>
        v.memory.before (value :: rest) := by
  simp only [Rule.denote, Rule.denoteAll, View.replaceNext, hv]
  cases hstrip : Rule.stripFirst? prefixes fold token with
  | none => rfl
  | some value =>
    by_cases hempty : value = ""
    · simp [hempty, View.testNext, Option.filter]
    · simp [hempty, View.testNext, View.memory, Memory.before, Option.filter]

/-- A flag is consumed, or else the prefix of a token. -/
theorem denoteAny_recognisers (base : Nat) (r : ResolvedArgument)
    (hv : v.tokens = token :: rest) :
    Rule.denoteAny (recognisers base r flags prefixes) v =
      if Rule.isWord (if r.ignoreCase then flags.map Text.toLowerCase else flags) r.ignoreCase
          token then
        some (v.memory.before rest)
      else if r.nargs = some (.exactly 0) then none
      else ((Rule.stripFirst? prefixes r.ignoreCase token).filter (· ≠ "")).map fun value =>
        v.memory.before (value :: rest) := by
  have hsingle (rule : Rule) : Rule.denoteAny [rule] v = rule.denote v := Option.or_none
  rw [recognisers, Rule.denoteAny_append]
  -- without flags there is no word, and without prefixes there is nothing to strip
  have hflags : Rule.denoteAny (if flags.isEmpty then []
      else [.all (base + 1) [.oneOf flags r.ignoreCase, .skip 1]]) v =
        if Rule.isWord (if r.ignoreCase then flags.map Text.toLowerCase else flags) r.ignoreCase
            token then
          some (v.memory.before rest)
        else none := by
    cases flags with
    | nil => cases r.ignoreCase <;> rfl
    | cons flag flags => exact (hsingle _).trans (denote_flag r.ignoreCase hv (base + 1))
  have hfused : Rule.denoteAny (if r.nargs = some (.exactly 0) || prefixes.isEmpty then []
      else [.all (base + 2) [.removePrefix prefixes r.ignoreCase, .not (base + 3) .isEmpty]]) v =
        if r.nargs = some (.exactly 0) then none
        else ((Rule.stripFirst? prefixes r.ignoreCase token).filter (· ≠ "")).map fun value =>
          v.memory.before (value :: rest) := by
    by_cases hnargs : r.nargs = some (.exactly 0)
    · simp only [hnargs, decide_true, Bool.true_or, if_true]
      rfl
    · simp only [hnargs, decide_false, Bool.false_or, if_false]
      cases prefixes with
      | nil => rfl
      | cons front prefixes =>
        exact (hsingle _).trans (denote_fused r.ignoreCase hv (base + 2) (base + 3))
  rw [hflags, hfused]
  cases Rule.isWord (if r.ignoreCase then flags.map Text.toLowerCase else flags) r.ignoreCase token
    <;> rfl

theorem denote_optionalRule (base : Nat) (r : ResolvedArgument) (dest : String)
    (flags prefixes : List String) (v : View) :
    (optionalRule base r dest flags prefixes).denote v =
      (Rule.denoteAny (recognisers base r flags prefixes) v).bind fun w =>
        w.collect ⟨base + 5, dest, Nargs.boundsOf r.nargs, valueFilter r⟩
          (setterHandler r.nargs r.append r.handler) := by
  rw [optionalRule, setter_eq_collect]
  simp only [Rule.denote, Rule.denoteAll, Option.bind_fun_some]

theorem meaningful_recognised (base : Nat) (r : ResolvedArgument) (flags prefixes : List String) :
    (Rule.any (base + 4) (recognisers base r flags prefixes)).Each Rule.Meaningful := by
  refine (Rule.each_any ..).mpr ⟨trivial, fun q hq => ?_⟩
  obtain rfl | rfl := eq_of_mem_recognisers hq <;> simp [Rule.oneOf, Rule.Meaningful]

theorem meaningful_optionalRule (hr : r.Handlers Handler.BuiltIn) (base : Nat) (dest : String)
    (flags prefixes : List String) :
    (optionalRule base r dest flags prefixes).Each Rule.Meaningful := by
  have hrecognised := meaningful_recognised base r flags prefixes
  have hsetter : (setterHandler r.nargs r.append r.handler).BuiltIn :=
    ok_setterHandler (fun _ h => h) hr.1 r.nargs r.append
  rw [optionalRule, setter_eq_collect]
  simpa [Rule.Meaningful, hsetter] using hrecognised

/-- Tokens that an optional argument does not start with are not its own. -/
theorem does_optionalRule_none (hr : r.Handlers Handler.BuiltIn)
    (hkind : r.kind = .optional flags prefixes) (h : ¬ r.Recognises token) (base : Nat)
    (dest : String) (tokens : List String) :
    (optionalRule base r dest flags prefixes).Does (token :: tokens) fun _ => none := by
  refine Rule.does_of_denote (meaningful_optionalRule hr base dest flags prefixes)
    (sound_optionalRule (fun _ hb => hb) hr dest flags prefixes).apart fun v rest hv => ?_
  rw [ResolvedArgument.Recognises, ResolvedArgument.HasFlag, ResolvedArgument.HasFused, hkind,
    not_or] at h
  obtain ⟨hflag, hfused⟩ := h
  rw [denote_optionalRule, denoteAny_recognisers base r hv, if_neg hflag]
  by_cases hnargs : r.nargs = some (.exactly 0)
  · rw [if_pos hnargs]
    rfl
  · rw [if_neg hnargs]
    cases hstrip : Rule.stripFirst? prefixes r.ignoreCase token with
    | none => rfl
    | some value =>
      have hempty : value = "" := by_contra fun hne => hfused ⟨hnargs, value, hstrip, hne⟩
      simp [hempty, Option.filter]

/-- What an optional argument stores for values. -/
def stored (r : ResolvedArgument) (values : List String) : Value :=
  .list ((⟨0, "", Nargs.boundsOf r.nargs, valueFilter r⟩ : Collector).stored
    (values.filterMap (valueFilter r).value?))

/-- An optional argument with an exact count consumes its flag and its values. -/
theorem does_optionalRule (hr : r.Handlers Handler.BuiltIn)
    (hkind : r.kind = .optional flags prefixes) (hflag : r.HasFlag token) {n : Nat}
    (hbounds : Nargs.boundsOf r.nargs = ⟨n, some n⟩) (hcount : tokens.length = n)
    (htokens : ∀ t ∈ tokens, ((valueFilter r).value? t).isSome) (base : Nat) (dest : String) :
    (optionalRule base r dest flags prefixes).Does (token :: tokens) fun m =>
      some (m.write (setterHandler r.nargs r.append r.handler) dest (stored r tokens)) := by
  refine Rule.does_of_denote (meaningful_optionalRule hr base dest flags prefixes)
    (sound_optionalRule (fun _ hb => hb) hr dest flags prefixes).apart fun v rest hv => ?_
  rw [ResolvedArgument.HasFlag, hkind] at hflag
  rw [denote_optionalRule, denoteAny_recognisers base r hv, if_pos hflag, Option.bind_some,
    View.collect_exact hbounds hcount htokens rfl]
  rfl

end Declaration

/-! ## Positional arguments -/

/-- A token has one of the characters in front just if it can be stripped. -/
theorem Rule.isSome_stripFirst?_chars (chars token : String) :
    (stripFirst? (chars.toList.map fun c => .ofList [c]) false token).isSome =
      startsWithAny chars token := by
  rw [Bool.eq_iff_iff, stripFirst?, List.findSome?_isSome_iff, startsWithAny]
  cases hchars : token.toList with
  | nil => simp [stripPrefix?]
  | cons first others =>
    have hfirst (p : Char) :
        (stripPrefix? (· == ·) [p] (first :: others)).isSome = (p == first) := by
      rw [stripPrefix?]
      cases p == first <;> rfl
    simp [hfirst]

namespace Declaration

variable {base : Nat} {r : ResolvedArgument} {dest token : String} {tokens rest : List String}
  {c : Content}

/-- What a positional argument that does not append makes of a token. -/
def positionalUpdate (base : Nat) (r : ResolvedArgument) (dest token : String) (m : Memory) :
    Option Memory :=
  if startsWithAny r.prefixChars token then none
  else
    (m.count (base + 2) (positionalLimit false r.nargs).bounds.most).bind fun m =>
      ((valueFilter r).value? token).map fun value =>
        m.write (setterHandler none r.nargs.isSome r.handler) dest (.list [value])

/-- The meaning of a rule, with the bound of a limit read as a word with a sign. -/
def meaning : Rule → View → Option View
  | .limit id most, v => (v.memory.count id most).map (·.before v.tokens)
  | rule, v => rule.denote v

theorem yields_meaning_limit {free : Owner → Prop} (hv : c.tokens.Valid) (id : Nat)
    (most : Option Nat) :
    (Rule.run (.limit id most)).Yields free c (meaning (.limit id most) c.view) := by
  have hwords : (Rule.limitStep id most).Yields free c _ := Rule.yields_limitStep_words hv id most
  have hview : meaning (.limit id most) c.view =
      if most.any (Int64.ofNat · ≤ c.scratch.count id) then none
      else some { c.view with
        scratch := c.scratch.set (.rule id) Rule.counterKey (.int (c.scratch.count id + 1)) } := by
    show (if most.any (Int64.ofNat · ≤ c.scratch.count id) then none else some _).map _ = _
    split <;> rfl
  rw [Rule.run, hview]
  exact hwords

/-- The parts of a positional argument, one after the other: the token is no flag, the bound is not
met, and the token is a value. -/
theorem yields_positionalRule (hr : r.Handlers Handler.BuiltIn) (hv : c.tokens.Valid)
    (hc : c.view.tokens = token :: rest) (base : Nat) (dest : String) :
    (positionalRule base r dest).run.Yields (positionalRule base r dest).Avoids c
      (if startsWithAny r.prefixChars token then none
      else (c.view.memory.count (base + 2) (positionalLimit r.append r.nargs).bounds.most).bind
        fun m => (m.before (token :: rest)).collect
          ⟨base + 5, dest, Nargs.boundsOf (if r.append then r.nargs else none), valueFilter r⟩
          (setterHandler (if r.append then r.nargs else none) (r.append || r.nargs.isSome)
            r.handler)) := by
  have hsound : (positionalRule base r dest).Sound Handler.BuiltIn base (base + 7) :=
    sound_positionalRule (fun _ hb => hb) hr dest
  have hapart := hsound.apart
  have hhandler := ok_setterHandler (fun _ hb => hb) hr.1 (if r.append then r.nargs else none)
    (r.append || r.nargs.isSome)
  rw [positionalRule, setter_eq_collect] at hapart ⊢
  generalize setterHandler (if r.append then r.nargs else none) (r.append || r.nargs.isSome)
    r.handler = handler at hapart hhandler ⊢
  generalize Collector.mk (base + 5) dest (Nargs.boundsOf (if r.append then r.nargs else none))
    (valueFilter r) = collector at hapart ⊢
  have hparts : ∀ q ∈ [Rule.not (base + 1)
      (.removePrefix (r.prefixChars.toList.map fun c => .ofList [c]) false),
      .limiter (base + 2) (positionalLimit r.append r.nargs), .collect collector handler],
      ∀ c : Content, c.tokens.Valid → q.run.Yields q.Avoids c (meaning q c.view) := by
    intro q hq c hc
    have hqapart := hapart.subs q hq
    simp only [List.mem_cons, List.not_mem_nil, or_false] at hq
    obtain rfl | rfl | rfl := hq
    · exact Rule.Each.yields (by simp [Rule.Meaningful]) hqapart hc
    · exact yields_meaning_limit hc (base + 2) _
    · exact Rule.Each.yields (by simpa [Rule.Meaningful] using hhandler) hqapart hc
  convert Rule.yields_all hapart hparts hv using 1
  have hflag := Rule.isSome_stripFirst?_chars r.prefixChars token
  simp only [List.foldlM_cons, List.foldlM_nil, meaning, Rule.denote, View.replaceNext, hc,
    Option.isSome_map, hflag, Rule.limiter, Option.bind_eq_bind, Option.pure_def,
    Option.bind_fun_some]
  split
  · rfl
  · simp only [Option.bind_some, Option.bind_map, hc]
    rfl

/-- A flag is not taken for a positional argument. -/
theorem does_positionalRule_none (hr : r.Handlers Handler.BuiltIn)
    (hflag : startsWithAny r.prefixChars token) (base : Nat) (dest : String)
    (tokens : List String) :
    (positionalRule base r dest).Does (token :: tokens) fun _ => none := by
  intro c rest hv hc
  have hyields := yields_positionalRule hr hv hc base dest
  rw [if_pos hflag] at hyields
  exact hyields

/-- A positional argument that does not append consumes one token. -/
theorem does_positionalRule (hr : r.Handlers Handler.BuiltIn) (happend : r.append = false)
    (base : Nat) (dest token : String) :
    (positionalRule base r dest).Does [token] (positionalUpdate base r dest token) := by
  intro c rest hv hc
  have hnext : c.view.tokens = token :: rest := hc
  have hyields := yields_positionalRule hr hv hnext base dest
  simp only [happend, Bool.false_or, Bool.false_eq_true, if_false] at hyields
  rw [positionalUpdate]
  cases hflag : startsWithAny r.prefixChars token with
  | true =>
    rw [hflag] at hyields
    exact hyields
  | false =>
    have hvalue (m : Memory) : (m.before (token :: rest)).collect
        ⟨base + 5, dest, Nargs.boundsOf none, valueFilter r⟩
        (setterHandler none r.nargs.isSome r.handler) =
          (((valueFilter r).value? token).map fun value =>
            m.write (setterHandler none r.nargs.isSome r.handler) dest (.list [value])).map
              (·.before rest) := by
      rw [View.collect_one rfl (m.tokens_before _), Option.map_map]
      rfl
    rw [hflag] at hyields
    simp only [Bool.false_eq_true, if_false, hvalue] at hyields
    simp only [Bool.false_eq_true, if_false, Option.map_bind]
    exact hyields

/-- The rule of an argument that records no tokens. -/
theorem rule_build_of_rawDest (hraw : r.rawDest = []) (base : Nat) :
    (build base r).rule = bareRule base r := by
  rw [rule_build, withCapture, hraw]
  rfl

/-- A positional argument that is declared as a flag and its opposite has no flags. -/
theorem does_flagPair_none (hr : r.Handlers Handler.BuiltIn) (hraw : r.rawDest = [])
    {name : String} (hkind : r.kind = .positional name) (base : Nat)
    (trueSuffix falseSuffix : String) (tokens : List String) :
    (flagPair base r trueSuffix falseSuffix).rule.Does tokens fun _ => none := by
  have hvariant (base : Nat) (value : Bool) (suffix : String) :
      ((build base (flagVariant r value suffix)).rule.Each Rule.Meaningful) ∧
        ∀ v, (build base (flagVariant r value suffix)).rule.denote v = none := by
    have hflags : (flagVariant r value suffix).kind = .optional [] [] := by
      simp [flagVariant, hkind]
    have hsame : (flagVariant r value suffix).rawDest = [] := hraw
    have hhandlers : (flagVariant r value suffix).Handlers Handler.BuiltIn := hr
    rw [rule_build_of_rawDest hsame, bareRule, hflags]
    refine ⟨meaningful_optionalRule hhandlers _ _ [] [], fun v => ?_⟩
    show (optionalRule base (flagVariant r value suffix) _ [] []).denote v = none
    rw [denote_optionalRule, recognisers]
    simp [Rule.denoteAny]
  obtain ⟨hon, hon'⟩ := hvariant base true trueSuffix
  obtain ⟨hoff, hoff'⟩ := hvariant (base + buildWidth) false falseSuffix
  refine Rule.does_of_denote ((Rule.each_any ..).mpr ⟨trivial, ?_⟩)
    (sound_flagPair (fun _ hb => hb) hr base trueSuffix falseSuffix).apart fun v rest hv => ?_
  · exact List.forall_mem_cons.mpr ⟨hon, List.forall_mem_singleton.mpr hoff⟩
  · rw [flagPair, Rule.denote, Rule.denoteAny, Rule.denoteAny, Rule.denoteAny, hon', hoff']
    rfl

end Declaration

end TokenGrammar
