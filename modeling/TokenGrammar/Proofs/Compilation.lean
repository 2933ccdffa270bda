import TokenGrammar.Proofs.Declared
import TokenGrammar.Proofs.Verbatim

/-!
# Grammars from calls

The rules and the validators of an argument parser are a function of the row of calls behind it.
Each call adds its own to the end, and nothing that is there depends on the calls that follow.

* `Call.compile`: the grammar of a row of calls, and `Call.compile_append` for two rows;
* `ArgumentParser.Declares.compile_calls`, `Call.exists_declares`: it is the grammar of the argument
  parsers that come of these calls, and there is one for each row that compiles;
* `Call.Mentions`: the attributes that a call names. `Call.ignores_compile`: the grammar has to do
  with these and with the ones that it makes up, and with no others.
-/

namespace TokenGrammar

/-! ## The grammar of a row of calls -/

theorem Argument.inherit_none (a : Argument) : a.inherit {} = a := by
  obtain ⟨names, flags, prefixes, dest, action⟩ := a
  cases dest <;> simp [inherit]

namespace Call

/-- The rules and the validators of a row of calls, with the argument that comes first declared
under a number. -/
def compile (number : Nat) : List Call → Except GrammarError TokenParser
  | [] => .ok ⟨[], []⟩
  | .argument settings a :: calls => do
    let d ← Declaration.ofArgument (number * Declaration.width) a settings {}
    let rest ← compile (number + 1) calls
    return ⟨d.rule :: rest.rules, d.validators ++ rest.validators⟩
  | .default dest value :: calls => do
    let rest ← compile number calls
    return ⟨rest.rules, .default dest value :: rest.validators⟩

variable {number : Nat} {calls more : List Call} {p : TokenParser}

theorem compile_argument {settings : Settings} {a : Argument} :
    compile number (.argument settings a :: calls) = .ok p ↔
      ∃ d rest, Declaration.ofArgument (number * Declaration.width) a settings {} = .ok d ∧
        compile (number + 1) calls = .ok rest ∧
        p = ⟨d.rule :: rest.rules, d.validators ++ rest.validators⟩ := by
  simp only [compile, Declaration.bind_eq_ok, pure, Except.pure, Except.ok.injEq]
  constructor
  · rintro ⟨d, hd, rest, hrest, rfl⟩
    exact ⟨d, rest, hd, hrest, rfl⟩
  · rintro ⟨d, rest, hd, hrest, rfl⟩
    exact ⟨d, hd, rest, hrest, rfl⟩

theorem compile_default {dest : String} {value : Value} :
    compile number (.default dest value :: calls) = .ok p ↔
      ∃ rest, compile number calls = .ok rest ∧
        p = ⟨rest.rules, .default dest value :: rest.validators⟩ := by
  simp only [compile, Declaration.bind_eq_ok, pure, Except.pure, Except.ok.injEq]
  exact exists_congr fun rest => and_congr_right fun _ => eq_comm

/-- The grammar of two rows is that of the one followed by that of the other, which is numbered on
from where the first one ends. -/
theorem compile_append :
    compile number (calls ++ more) = .ok p ↔
      ∃ front back, compile number calls = .ok front ∧
        compile (number + front.rules.length) more = .ok back ∧
        p = ⟨front.rules ++ back.rules, front.validators ++ back.validators⟩ := by
  induction calls generalizing number p with
  | nil =>
    constructor
    · intro h
      exact ⟨⟨[], []⟩, p, rfl, h, rfl⟩
    · rintro ⟨_, back, ⟨⟩, h, rfl⟩
      exact h
  | cons call calls ih =>
    cases call with
    | argument settings a =>
      simp only [List.cons_append, compile_argument, ih]
      constructor
      · rintro ⟨d, _, hd, ⟨front, back, hfront, hback, rfl⟩, rfl⟩
        refine ⟨_, back, ⟨d, front, hd, hfront, rfl⟩, ?_, by simp⟩
        rw [List.length_cons, Nat.add_comm front.rules.length, ← Nat.add_assoc]
        exact hback
      · rintro ⟨_, back, ⟨d, front, hd, hfront, rfl⟩, hback, rfl⟩
        refine ⟨d, _, hd, ⟨front, back, hfront, ?_, rfl⟩, by simp⟩
        rw [List.length_cons, Nat.add_comm front.rules.length, ← Nat.add_assoc] at hback
        exact hback
    | default dest value =>
      simp only [List.cons_append, compile_default, ih]
      constructor
      · rintro ⟨_, ⟨front, back, hfront, hback, rfl⟩, rfl⟩
        exact ⟨_, back, ⟨front, hfront, rfl⟩, hback, rfl⟩
      · rintro ⟨_, back, ⟨front, hfront, rfl⟩, hback, rfl⟩
        exact ⟨_, ⟨front, back, hfront, hback, rfl⟩, rfl⟩

end Call

namespace ArgumentParser

/-- An argument that inherited already inherits nothing more. -/
theorem ofArgument_inherit (base : Nat) (a : Argument) (settings : Settings)
    (defaults : ArgumentDefaults) :
    Declaration.ofArgument base (a.inherit defaults) settings {} =
      Declaration.ofArgument base a settings defaults := by
  rw [Declaration.ofArgument, Declaration.ofArgument, Argument.inherit_none]

/-- An argument parser has the grammar of its calls. -/
theorem Declares.compile_calls {p : ArgumentParser} {calls : List Call} (h : p.Declares calls) :
    Call.compile 0 calls = .ok ⟨p.rules, p.validators⟩ := by
  induction h with
  | new => rfl
  | tune _ _ _ ih => exact ih
  | parse _ ih => exact ih
  | @addArgument p q calls a rule _ hadd ih =>
    obtain ⟨d, hd, -, rfl⟩ := addArgument_eq_ok.mp hadd
    refine Call.compile_append.mpr ⟨_, ⟨[d.rule], d.validators⟩, ih, ?_, rfl⟩
    refine Call.compile_argument.mpr ⟨d, ⟨[], []⟩, ?_, rfl, by simp⟩
    rw [ofArgument_inherit, Nat.zero_add]
    exact hd
  | @setDefault p calls dest value _ ih =>
    refine Call.compile_append.mpr ⟨_, ⟨[], [.default dest value]⟩, ih, rfl, ?_⟩
    exact congrArg (TokenParser.mk · _) (List.append_nil p.rules).symm

/-- Calls that compile can be made one after the other. -/
theorem Declares.extend {p : ArgumentParser} {calls more : List Call} (h : p.Declares calls)
    {back : TokenParser} (hmore : Call.compile p.rules.length more = .ok back) :
    ∃ q : ArgumentParser, q.Declares (calls ++ more) := by
  induction more generalizing p calls back with
  | nil => exact ⟨p, by rwa [List.append_nil]⟩
  | cons call more ih =>
    rw [List.append_cons]
    cases call with
    | argument settings a =>
      obtain ⟨d, rest, hd, hrest, -⟩ := Call.compile_argument.mp hmore
      have hadd : ArgumentParser.addArgument { p with settings, defaults := {} } a =
          .ok (d.rule, _) := addArgument_eq_ok.mpr ⟨d, hd, rfl, rfl⟩
      have hq := (h.tune settings {}).addArgument hadd
      rw [Argument.inherit_none] at hq
      have hlater : Call.compile (p.rules ++ [d.rule]).length more = .ok rest := by
        rw [List.length_append]
        exact hrest
      exact ih hq hlater
    | default dest value =>
      obtain ⟨rest, hrest, -⟩ := Call.compile_default.mp hmore
      exact ih (h.setDefault dest value) hrest

end ArgumentParser

/-- There is an argument parser for each row of calls that compiles. -/
theorem Call.exists_declares {calls : List Call} {p : TokenParser} (h : compile 0 calls = .ok p) :
    ∃ q : ArgumentParser, q.Declares calls :=
  ArgumentParser.Declares.new.extend h

/-! ## Attributes of a grammar -/

namespace Declaration

variable {base i j : Nat} {r : ResolvedArgument} {name : String}

/-- Anonymous destinations of different numbers are different. -/
theorem anonymousDest_inj (h : anonymousDest i = anonymousDest j) : i = j := by
  have hdigits : Decimal.digitChars i = Decimal.digitChars j :=
    List.append_cancel_left (String.ofList_injective h)
  have hread := congrArg (Nat.ofDigitChars 10 · 0) hdigits
  simpa [Decimal.digitChars] using hread

/-- The declaration has nothing to do with the attribute. -/
def Ignores (d : Declaration) (name : String) : Prop :=
  d.rule.Spares name ∧ ∀ v ∈ d.validators, v.dest ≠ name

/-- An argument has to do with its destination and the ones for its tokens. -/
theorem ignores_build (h : name ≠ r.dest.getD (anonymousDest base)) (hraw : name ∉ r.rawDest) :
    (build base r).Ignores name := by
  refine ⟨each_build (fun q hq => ?_) (mt List.mem_singleton.mp h) fun _ _ _ => hraw,
    fun v hv => dest_of_mem_build hv ▸ h.symm⟩
  rw [hq]
  exact List.not_mem_nil

theorem ignores_flagPair (hon : name ≠ r.dest.getD (anonymousDest base))
    (hoff : name ≠ r.dest.getD (anonymousDest (base + buildWidth))) (hraw : name ∉ r.rawDest)
    (trueSuffix falseSuffix : String) :
    (flagPair base r trueSuffix falseSuffix).Ignores name := by
  have on : (build base (flagVariant r true trueSuffix)).Ignores name := ignores_build hon hraw
  have off : (build (base + buildWidth) (flagVariant r false falseSuffix)).Ignores name :=
    ignores_build hoff hraw
  refine ⟨(Rule.each_any ..).mpr ⟨List.not_mem_nil, ?_⟩, ?_⟩
  · exact List.forall_mem_cons.mpr ⟨on.1, List.forall_mem_singleton.mpr off.1⟩
  · exact List.forall_mem_append.mpr ⟨on.2, off.2⟩

/-- Named or made up, a destination is another one than an attribute that is neither. -/
theorem ne_dest (hdest : r.dest ≠ some name) (hbase : name ≠ anonymousDest base) :
    name ≠ r.dest.getD (anonymousDest base) := by
  cases h : r.dest with
  | none => exact hbase
  | some dest =>
    rintro rfl
    exact hdest h

end Declaration

namespace Call

/-- The call names the attribute: an argument as its destination or for its tokens, or a default. -/
def Mentions (name : String) : Call → Prop
  | .argument settings a => ∃ r, Declaration.resolve a settings = .ok r ∧
      (r.dest = some name ∨ name ∈ r.rawDest)
  | .default dest _ => dest = name

end Call

namespace Declaration

variable {base : Nat} {a : Argument} {settings : Settings} {d : Declaration} {name : String}

theorem resolveOptional_eq_ok {prefixChars : String} {kinded : Kinded} :
    resolveOptional a prefixChars = .ok kinded ↔
      ∃ spelled, Flags.ofArgument a prefixChars = .ok spelled ∧
        kinded = ⟨.optional spelled.flags spelled.prefixes, spelled.dest, a.required.getD false,
          a.default⟩ := by
  simp only [resolveOptional, bind_eq_ok, pure, Except.pure, Except.ok.injEq]
  exact exists_congr fun spelled => and_congr_right fun _ => eq_comm

/-- An optional argument is resolved as one, and as required or with a default where it says so. -/
theorem resolve_optional {r : ResolvedArgument} (h : resolve a settings = .ok r)
    (hoptional : isOptional a (a.prefixChars.getD settings.prefixChars) = true) :
    (∃ flags prefixes, r.kind = .optional flags prefixes) ∧ r.required = a.required.getD false ∧
      r.default = a.default := by
  obtain ⟨regexp, kinded, -, hkinded, rfl⟩ := resolve_eq_ok.mp h
  rw [resolveKind, if_pos hoptional] at hkinded
  obtain ⟨spelled, -, rfl⟩ := resolveOptional_eq_ok.mp hkinded
  exact ⟨⟨_, _, rfl⟩, rfl, rfl⟩

/-- An argument that is not an optional one is resolved as a positional one. -/
theorem resolve_positional {r : ResolvedArgument} (h : resolve a settings = .ok r)
    (hpositional : isOptional a (a.prefixChars.getD settings.prefixChars) ≠ true) :
    ∃ name, r.kind = .positional name := by
  obtain ⟨regexp, kinded, -, hkinded, rfl⟩ := resolve_eq_ok.mp h
  rw [resolveKind, if_neg hpositional, resolvePositional] at hkinded
  split at hkinded
  · cases hkinded
  · rename_i name _
    obtain rfl := Except.ok.inj hkinded
    exact ⟨name, rfl⟩

/-- What an argument is compiled to, in terms of the argument as it is resolved. -/
theorem ofArgument_eq_ok : ofArgument base a settings {} = .ok d ↔
    checkDest a.dest = .ok () ∧ ∃ r, resolve a settings = .ok r ∧
      applyAction base r (a.msvcTrueSuffix.getD "") (a.msvcFalseSuffix.getD "-")
        (a.action.getD .store) = .ok d := by
  simp only [ofArgument, Argument.inherit_none, bind_eq_ok]
  constructor
  · rintro ⟨_, hcheck, r, hr, hd⟩
    exact ⟨hcheck, r, hr, hd⟩
  · rintro ⟨hcheck, r, hr, hd⟩
    exact ⟨(), hcheck, r, hr, hd⟩

/-- An argument has to do with the attributes that it names, and with the two at most that are made
up for it. -/
theorem ignores_ofArgument (h : ofArgument base a settings {} = .ok d)
    (hname : ¬ (Call.argument settings a).Mentions name) (hon : name ≠ anonymousDest base)
    (hoff : name ≠ anonymousDest (base + buildWidth)) : d.Ignores name := by
  obtain ⟨-, r, hr, hd⟩ := ofArgument_eq_ok.mp h
  have hdest : r.dest ≠ some name := fun heq => hname ⟨r, hr, .inl heq⟩
  have hraw : name ∉ r.rawDest := fun hmem => hname ⟨r, hr, .inr hmem⟩
  obtain ⟨s, hs, rfl⟩ | rfl := applyAction_cases hd
  · exact ignores_build (ne_dest (hs.dest ▸ hdest) hon) (hs.rawDest ▸ hraw)
  · exact ignores_flagPair (ne_dest hdest hon) (ne_dest hdest hoff) hraw _ _

/-! ## Actions -/

/-- The argument that an action makes of another one. A flag and its opposite are not one. -/
def adjust (r : ResolvedArgument) : Action → Except GrammarError ResolvedArgument
  | .store | .msvcFlag => .ok r
  | .storeConst => withConstant r
  | .storeTrue => .ok (withFlag r true)
  | .storeFalse => .ok (withFlag r false)
  | .append => .ok { r with append := true }
  | .appendConst => (withConstant r).map fun r => { r with append := true }
  | .msvcFlagWithValue => .ok { r with kind := colonKind r.kind }

section Action

variable {r s : ResolvedArgument} {trueSuffix falseSuffix : String} {action : Action}

theorem withConstant_eq_ok :
    withConstant r = .ok s ↔ r.constant.isSome ∧ s = { r with nargs := some (.exactly 0) } := by
  rw [withConstant]
  cases r.constant <;> simp [eq_comm]

theorem appendConst_eq_ok : adjust r .appendConst = .ok s ↔
    r.constant.isSome ∧ s = { r with nargs := some (.exactly 0), append := true } := by
  rw [adjust, withConstant]
  cases r.constant <;> simp [Except.map, eq_comm]

/-- Whatever its action, an argument is adjusted and built, or is a flag and its opposite. -/
theorem applyAction_eq_ok : applyAction base r trueSuffix falseSuffix action = .ok d ↔
    (action ≠ .msvcFlag ∧ ∃ s, adjust r action = .ok s ∧ d = build base s) ∨
      (action = .msvcFlag ∧ d = flagPair base r trueSuffix falseSuffix) := by
  cases action with
  | storeConst | appendConst =>
    cases h : withConstant r <;> simp [applyAction, adjust, h, Except.map, eq_comm]
  | _ => simp [applyAction, adjust, eq_comm]

/-- An action leaves it at where the values go, and how. -/
theorem adjust_alike (h : adjust r action = .ok s) : r.Alike s := by
  cases action with
  | storeConst =>
    obtain ⟨-, rfl⟩ := withConstant_eq_ok.mp h
    exact ⟨rfl, rfl, rfl, rfl, rfl⟩
  | appendConst =>
    obtain ⟨-, rfl⟩ := appendConst_eq_ok.mp h
    exact ⟨rfl, rfl, rfl, rfl, rfl⟩
  | _ =>
    obtain rfl := Except.ok.inj h
    exact ⟨rfl, rfl, rfl, rfl, rfl⟩

/-- An action leaves it at how an argument is recognised, unless it puts a colon behind the
flags. -/
theorem adjust_kind (h : adjust r action = .ok s) :
    s.kind = if action = .msvcFlagWithValue then colonKind r.kind else r.kind := by
  cases action with
  | storeConst =>
    obtain ⟨-, rfl⟩ := withConstant_eq_ok.mp h
    rfl
  | appendConst =>
    obtain ⟨-, rfl⟩ := appendConst_eq_ok.mp h
    rfl
  | _ =>
    obtain rfl := Except.ok.inj h
    rfl

/-- Unless it stores a flag, an action leaves it at whether the argument is an optional one, is
required and has a default. -/
theorem adjust_keeps (h : adjust r action = .ok s)
    (hflag : action ≠ .storeTrue ∧ action ≠ .storeFalse) :
    s.required = r.required ∧ s.default = r.default ∧
      ∀ flags prefixes, r.kind = .optional flags prefixes →
        ∃ flags prefixes, s.kind = .optional flags prefixes := by
  cases action with
  | store | append | msvcFlag =>
    obtain rfl := Except.ok.inj h
    exact ⟨rfl, rfl, fun flags prefixes hkind => ⟨flags, prefixes, hkind⟩⟩
  | storeConst =>
    obtain ⟨-, rfl⟩ := withConstant_eq_ok.mp h
    exact ⟨rfl, rfl, fun flags prefixes hkind => ⟨flags, prefixes, hkind⟩⟩
  | appendConst =>
    obtain ⟨-, rfl⟩ := appendConst_eq_ok.mp h
    exact ⟨rfl, rfl, fun flags prefixes hkind => ⟨flags, prefixes, hkind⟩⟩
  | msvcFlagWithValue =>
    obtain rfl := Except.ok.inj h
    refine ⟨rfl, rfl, fun flags prefixes hkind => ⟨[], flags.map (· ++ ":"), ?_⟩⟩
    show colonKind r.kind = _
    rw [hkind, colonKind]
  | storeTrue => exact absurd rfl hflag.1
  | storeFalse => exact absurd rfl hflag.2

end Action

end Declaration

namespace TokenParser

/-- The grammar has nothing to do with the attribute. -/
def Ignores (p : TokenParser) (name : String) : Prop :=
  (∀ r ∈ p.rules, r.Spares name) ∧ ∀ v ∈ p.validators, v.dest ≠ name

end TokenParser

/-- A grammar has to do with the attributes that its calls name, and with those that are made up for
its arguments. -/
theorem Call.ignores_compile {number : Nat} {calls : List Call} {p : TokenParser} {name : String}
    (h : compile number calls = .ok p) (hname : ∀ call ∈ calls, ¬ call.Mentions name)
    (hmade : ∀ id, name = Declaration.anonymousDest id →
      id < number * Declaration.width ∨ (number + p.rules.length) * Declaration.width ≤ id) :
    p.Ignores name := by
  induction calls generalizing number p with
  | nil =>
    cases h
    exact ⟨fun r hr => (nomatch hr), fun v hv => (nomatch hv)⟩
  | cons call calls ih =>
    obtain ⟨hcall, hcalls⟩ := List.forall_mem_cons.mp hname
    cases call with
    | argument settings a =>
      obtain ⟨d, rest, hd, hrest, rfl⟩ := compile_argument.mp h
      have hown : d.Ignores name := by
        refine Declaration.ignores_ofArgument hd hcall ?_ ?_ <;> intro heq <;>
          have := hmade _ heq <;>
          simp only [List.length_cons, Declaration.width, Declaration.buildWidth] at this <;> omega
      obtain ⟨hrules, hvalidators⟩ := ih hrest hcalls fun id heq => by
        have := hmade id heq
        simp only [List.length_cons, Declaration.width, Declaration.buildWidth] at this ⊢
        omega
      exact ⟨List.forall_mem_cons.mpr ⟨hown.1, hrules⟩,
        List.forall_mem_append.mpr ⟨hown.2, hvalidators⟩⟩
    | default dest value =>
      obtain ⟨rest, hrest, rfl⟩ := compile_default.mp h
      obtain ⟨hrules, hvalidators⟩ := ih hrest hcalls hmade
      exact ⟨hrules, List.forall_mem_cons.mpr ⟨hcall, hvalidators⟩⟩

end TokenGrammar
