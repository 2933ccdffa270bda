import TokenGrammar.Proofs.Facade

/-!
# What was declared

An argument parser as the row of the calls that made it: the arguments that it accepted, with what
they inherited and the settings that they met, and the defaults of attributes.

* `ArgumentParser.Declares`: the calls behind an argument parser;
* `ArgumentParser.Declares.compiled`: every rule and every validator is of one of these calls;
* `ArgumentParser.Built.declares`, `ArgumentParser.Declares.built`: each argument parser that the
  facade leads to has such calls, and the calls determine what handlers there are.
-/

namespace TokenGrammar

/-! ## Rows of calls -/

/-- A call that changed a grammar. -/
inductive Call where
  /-- An argument with what it inherited, and the settings that it met. -/
  | argument (settings : Settings) (a : Argument)
  /-- A default of an attribute. -/
  | default (dest : String) (value : Value)

/-- The declaration is what an argument among the calls was compiled to. -/
def Declaration.Of (calls : List Call) (d : Declaration) : Prop :=
  ∃ settings a base r trueSuffix falseSuffix action,
    Call.argument settings a ∈ calls ∧ Declaration.resolve a settings = .ok r ∧
      Declaration.applyAction base r trueSuffix falseSuffix action = .ok d

theorem Declaration.Of.append {calls : List Call} {d : Declaration} (h : d.Of calls)
    (more : List Call) : d.Of (calls ++ more) := by
  obtain ⟨settings, a, base, r, trueSuffix, falseSuffix, action, hmem, hd⟩ := h
  exact ⟨settings, a, base, r, trueSuffix, falseSuffix, action, List.mem_append_left more hmem, hd⟩

/-- The handlers of the arguments are of a kind. -/
def Call.Handlers (ok : Handler → Prop) : Call → Prop
  | .argument _ a => a.Handlers ok
  | .default _ _ => True

theorem Call.Handlers.mono {ok ok' : Handler → Prop} {call : Call} (h : call.Handlers ok)
    (hok : ∀ handler, ok handler → ok' handler) : call.Handlers ok' := by
  cases call with
  | argument settings a => exact Argument.Handlers.mono h hok
  | default dest value => trivial

namespace ArgumentParser

/-- The argument parser comes of these calls. Settings and defaults may change between them in any
way, and a parse may come between them. -/
inductive Declares : ArgumentParser → List Call → Prop where
  | new : Declares {} []
  | tune {p : ArgumentParser} {calls : List Call} (settings : Settings)
      (defaults : ArgumentDefaults) (h : Declares p calls) :
      Declares { p with settings, defaults } calls
  | addArgument {p q : ArgumentParser} {calls : List Call} {a : Argument} {rule : Rule}
      (h : Declares p calls) (hadd : p.addArgument a = .ok (rule, q)) :
      Declares q (calls ++ [.argument p.settings (a.inherit p.defaults)])
  | setDefault {p : ArgumentParser} {calls : List Call} (dest : String) (value : Value)
      (h : Declares p calls) : Declares (p.setDefault dest value) (calls ++ [.default dest value])
  | parse {p : ArgumentParser} {calls : List Call} (h : Declares p calls) :
      Declares p.keepCompiled calls

/-- What an accepted argument adds to the argument parser. -/
theorem addArgument_eq_ok {p q : ArgumentParser} {a : Argument} {rule : Rule} :
    p.addArgument a = .ok (rule, q) ↔
      ∃ d, Declaration.ofArgument (p.rules.length * Declaration.width) a p.settings p.defaults =
          .ok d ∧ d.rule = rule ∧
        q = { p with
          rules := p.rules ++ [d.rule]
          validators := p.validators ++ d.validators
          compiled := none } := by
  rw [addArgument, Declaration.bind_eq_ok]
  simp only [pure, Except.pure, Except.ok.injEq, Prod.mk.injEq, eq_comm]

namespace Declares

variable {p : ArgumentParser} {calls : List Call}

/-- The token parser of an argument parser, kept or not, is that of its rules and validators. -/
theorem compile_eq (h : p.Declares calls) : p.compile = ⟨p.rules, p.validators⟩ := by
  induction h with
  | new => rfl
  | addArgument _ hadd =>
    obtain ⟨d, -, -, rfl⟩ := addArgument_eq_ok.mp hadd
    rfl
  | setDefault => rfl
  | tune _ _ _ ih => exact ih
  | parse _ ih => exact ih

/-- Every rule is that of a declared argument. Every validator is one of a declared argument, or
sets a declared default. -/
theorem compiled (h : p.Declares calls) :
    (∀ r ∈ p.rules, ∃ d : Declaration, d.Of calls ∧ d.rule = r) ∧
      ∀ v ∈ p.validators,
        (∃ dest value, Call.default dest value ∈ calls ∧ v = .default dest value) ∨
          ∃ d : Declaration, d.Of calls ∧ d.rule ∈ p.rules ∧ v ∈ d.validators := by
  induction h with
  | new => exact ⟨fun r hr => (nomatch hr), fun v hv => (nomatch hv)⟩
  | tune _ _ _ ih => exact ih
  | parse _ ih => exact ih
  | @addArgument p q calls a rule _ hadd ih =>
    obtain ⟨hrules, hvalidators⟩ := ih
    obtain ⟨d, hd, -, rfl⟩ := addArgument_eq_ok.mp hadd
    simp only [Declaration.ofArgument, Declaration.bind_eq_ok] at hd
    obtain ⟨-, -, r, hr, hd⟩ := hd
    have hof : d.Of (calls ++ [.argument p.settings (a.inherit p.defaults)]) :=
      ⟨_, _, _, r, _, _, _, List.mem_append_right calls List.mem_cons_self, hr, hd⟩
    refine ⟨fun r hr => ?_, fun v hv => ?_⟩
    · rcases List.mem_append.mp hr with hr | hr
      · obtain ⟨d', hd', heq⟩ := hrules r hr
        exact ⟨d', hd'.append _, heq⟩
      · exact ⟨d, hof, (List.mem_singleton.mp hr).symm⟩
    · rcases List.mem_append.mp hv with hv | hv
      · obtain ⟨dest, value, hmem, rfl⟩ | ⟨d', hd', hmem, hv⟩ := hvalidators v hv
        · exact .inl ⟨dest, value, List.mem_append_left _ hmem, rfl⟩
        · exact .inr ⟨d', hd'.append _, List.mem_append_left _ hmem, hv⟩
      · exact .inr ⟨d, hof, List.mem_append_right _ List.mem_cons_self, hv⟩
  | @setDefault p calls dest value _ ih =>
    obtain ⟨hrules, hvalidators⟩ := ih
    refine ⟨fun r hr => ?_, fun v hv => ?_⟩
    · obtain ⟨d', hd', heq⟩ := hrules r hr
      exact ⟨d', hd'.append _, heq⟩
    · rcases List.mem_append.mp hv with hv | hv
      · obtain ⟨dest', value', hmem, rfl⟩ | ⟨d', hd', hmem, hv⟩ := hvalidators v hv
        · exact .inl ⟨dest', value', List.mem_append_left _ hmem, rfl⟩
        · exact .inr ⟨d', hd'.append _, hmem, hv⟩
      · obtain rfl := List.mem_singleton.mp hv
        exact .inl ⟨dest, value, List.mem_append_right _ List.mem_cons_self, rfl⟩

/-- The calls say which handlers there are. -/
theorem built {ok : Handler → Prop} (h : p.Declares calls)
    (hok : ∀ call ∈ calls, call.Handlers ok) :
    p.Built ok := by
  induction h with
  | new => exact .new
  | tune settings defaults _ ih =>
    exact .setDefaults defaults
      (.setIgnoreCase settings.ignoreCase (.setPrefixChars settings.prefixChars (ih hok)))
  | @addArgument _ _ _ a _ _ hadd ih =>
    obtain ⟨hcalls, hargument⟩ := List.forall_mem_append.mp hok
    have ha : a.Handlers ok := hargument _ List.mem_cons_self
    exact .addArgument ha (ih hcalls) hadd
  | setDefault dest value _ ih =>
    exact .setDefault dest value (ih (List.forall_mem_append.mp hok).1)
  | parse _ ih => exact .parse (ih hok)

end Declares

/-- Each argument parser that the facade leads to comes of calls. -/
theorem Built.declares {ok : Handler → Prop} {p : ArgumentParser} (h : p.Built ok) :
    ∃ calls, p.Declares calls ∧ ∀ call ∈ calls, call.Handlers ok := by
  induction h with
  | new => exact ⟨[], .new, fun call hcall => nomatch hcall⟩
  | @addArgument p q a rule ha _ hadd ih =>
    obtain ⟨calls, hcalls, hok⟩ := ih
    exact ⟨_, .addArgument hcalls hadd,
      List.forall_mem_append.mpr ⟨hok, List.forall_mem_singleton.mpr ha⟩⟩
  | setDefault dest value _ ih =>
    obtain ⟨calls, hcalls, hok⟩ := ih
    exact ⟨_, .setDefault dest value hcalls,
      List.forall_mem_append.mpr ⟨hok, List.forall_mem_singleton.mpr trivial⟩⟩
  | parse _ ih =>
    obtain ⟨calls, hcalls, hok⟩ := ih
    exact ⟨calls, hcalls.parse, hok⟩
  | _ =>
    rename_i ih
    obtain ⟨calls, hcalls, hok⟩ := ih
    exact ⟨calls, hcalls.tune _ _, hok⟩

end ArgumentParser

end TokenGrammar
