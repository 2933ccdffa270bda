import TokenGrammar.GrammarFile
import TokenGrammar.Proofs.Declared
import TokenGrammar.Proofs.Dispatch
import TokenGrammar.Proofs.Validation

/-!
# Compositions of library rules

A rule that opens a savepoint while its own is open, or that leaves one open, is a mistake in a
grammar, and no fault of the tokens. Rules of the library do not make it, however they are put
together: a rule is made after the rules below it, so a tree of rules is finite, and no rule stands
below itself. This is so even if one rule stands in several places, or if clones of it do.

* `Rule.Occurs`: the places of a tree, of which there are finitely many;
* `Rule.Made`: rules that are made one after the other. `Rule.Made.subrules_eq`: a number stands for
  one rule and its clones, by induction on what is made;
* `TokenParser.Composed`: the parsers of such rules. `TokenParser.Composed.apart`: no rule stands
  below one with its number;
* `TokenParser.Reliable`: what it is to fail for the input only. `TokenParser.Sound.reliable`: a
  parser with rules that are apart from those below them does;
* `GrammarFile.built_toParser`: the grammars of files are declared grammars;
* `TokenParser.reliable_of_library`: compositions of rules, declared grammars and the grammars of
  files fail for their input only.
-/

namespace TokenGrammar

/-! ## Places of a tree -/

namespace Rule

/-- The second rule stands somewhere in the tree of the first one. -/
inductive Occurs : Rule → Rule → Prop where
  | here (rule : Rule) : Occurs rule rule
  | sub {root sub rule : Rule} (hsub : sub ∈ root.subrules) (h : Occurs sub rule) :
      Occurs root rule

variable {root rule sub : Rule}

theorem Occurs.trans (h : root.Occurs rule) (h' : rule.Occurs sub) : root.Occurs sub := by
  induction h with
  | here => exact h'
  | sub hsub _ ih => exact .sub hsub (ih h')

/-- A rule is larger than the rules below it. -/
theorem sizeOf_lt_of_mem_subrules (h : sub ∈ root.subrules) : sizeOf sub < sizeOf root := by
  cases root with
  | not id rule | capture id dests rule format handler =>
    obtain rfl := List.mem_singleton.mp h
    simp only [not.sizeOf_spec, capture.sizeOf_spec]
    omega
  | all id rules | any id rules =>
    have hlt : sizeOf sub < sizeOf rules := List.sizeOf_lt_of_mem h
    simp only [all.sizeOf_spec, any.sizeOf_spec]
    omega
  | _ => cases h

theorem Occurs.sizeOf_le (h : root.Occurs rule) : sizeOf rule ≤ sizeOf root := by
  induction h with
  | here => exact Nat.le_refl _
  | sub hsub _ ih => exact Nat.le_trans ih (Nat.le_of_lt (sizeOf_lt_of_mem_subrules hsub))

theorem each_of_occurs {P : Rule → Prop} (root : Rule) (h : ∀ r, root.Occurs r → P r) :
    root.Each P :=
  .intro (h root (.here root)) fun sub hsub => each_of_occurs sub fun r hr => h r (.sub hsub hr)
termination_by sizeOf root
decreasing_by exact sizeOf_lt_of_mem_subrules hsub

theorem each_iff_occurs {P : Rule → Prop} : root.Each P ↔ ∀ r, root.Occurs r → P r := by
  refine ⟨fun h r hr => ?_, each_of_occurs root⟩
  induction hr with
  | here => exact h.root
  | sub hsub _ ih => exact ih (h.subs _ hsub)

/-! ## How rules are made -/

/-- The rules that were made so far, and the number that the next one gets. A rule is made of rules
that are there. A clone may have another handler or another format, but it has the number of the
rule and the rules below it. -/
inductive Made : Nat → List Rule → Prop where
  | none : Made 0 []
  | leaf {next : Nat} {made : List Rule} {rule : Rule} (h : Made next made)
      (hnumber : rule.owner? = .none) (hsubs : rule.subrules = []) : Made next (rule :: made)
  | fresh {next : Nat} {made : List Rule} {rule : Rule} (h : Made next made)
      (hnumber : rule.owner? = some (.rule next)) (hsubs : ∀ r ∈ rule.subrules, r ∈ made) :
      Made (next + 1) (rule :: made)
  | clone {next : Nat} {made : List Rule} {rule copy : Rule} (h : Made next made)
      (hrule : rule ∈ made) (hnumber : copy.owner? = rule.owner?)
      (hsubs : copy.subrules = rule.subrules) : Made next (copy :: made)

namespace Made

variable {next : Nat} {made : List Rule}

/-- What stands in the tree of a rule was made before. -/
theorem mem_of_occurs (h : Made next made) : ∀ r ∈ made, ∀ s, r.Occurs s → s ∈ made := by
  have hsubs : ∀ r ∈ made, ∀ s ∈ r.subrules, s ∈ made := by
    induction h with
    | none => exact fun r hr => absurd hr List.not_mem_nil
    | leaf _ _ hsubs ih =>
      refine List.forall_mem_cons.mpr ⟨fun s hs => ?_, fun r hr s hs => ?_⟩
      · rw [hsubs] at hs
        cases hs
      · exact List.mem_cons_of_mem _ (ih r hr s hs)
    | fresh _ _ hsubs ih =>
      refine List.forall_mem_cons.mpr ⟨fun s hs => ?_, fun r hr s hs => ?_⟩
      · exact List.mem_cons_of_mem _ (hsubs s hs)
      · exact List.mem_cons_of_mem _ (ih r hr s hs)
    | clone _ hrule _ hsubs ih =>
      refine List.forall_mem_cons.mpr ⟨fun s hs => ?_, fun r hr s hs => ?_⟩
      · exact List.mem_cons_of_mem _ (ih _ hrule s (hsubs ▸ hs))
      · exact List.mem_cons_of_mem _ (ih r hr s hs)
  intro r hr s hs
  induction hs with
  | here => exact hr
  | sub hsub _ ih => exact ih (hsubs _ hr _ hsub)

/-- The numbers that were given out are below the next one. -/
theorem lt_next (h : Made next made) :
    ∀ r ∈ made, ∀ owner, r.owner? = some owner → ∃ id, owner = .rule id ∧ id < next := by
  induction h with
  | none => exact fun r hr => absurd hr List.not_mem_nil
  | leaf _ hnumber _ ih =>
    refine List.forall_mem_cons.mpr ⟨fun owner howner => ?_, ih⟩
    cases hnumber.symm.trans howner
  | fresh _ hnumber _ ih =>
    refine List.forall_mem_cons.mpr ⟨fun owner howner => ?_, fun r hr owner howner => ?_⟩
    · obtain rfl := Option.some.inj (hnumber.symm.trans howner)
      exact ⟨_, rfl, Nat.lt_succ_self _⟩
    · obtain ⟨id, rfl, hlt⟩ := ih r hr owner howner
      exact ⟨id, rfl, Nat.lt_succ_of_lt hlt⟩
  | clone _ hrule hnumber _ ih =>
    exact List.forall_mem_cons.mpr
      ⟨fun owner howner => ih _ hrule owner (hnumber.symm.trans howner), ih⟩

/-- A number stands for one rule and its clones, which have the same rules below them. -/
theorem subrules_eq (h : Made next made) : ∀ r ∈ made, ∀ s ∈ made, ∀ owner,
    r.owner? = some owner → s.owner? = some owner → s.subrules = r.subrules := by
  induction h with
  | none => exact fun r hr => absurd hr List.not_mem_nil
  | @leaf next made rule _ hnumber _ ih =>
    intro r hr s hs owner hrowner hsowner
    obtain rfl | hr := List.mem_cons.mp hr
    · cases hnumber.symm.trans hrowner
    obtain rfl | hs := List.mem_cons.mp hs
    · cases hnumber.symm.trans hsowner
    exact ih r hr s hs owner hrowner hsowner
  | @fresh next made rule h hnumber _ ih =>
    -- the new number was not given out before
    have hnew : ∀ s ∈ made, ∀ owner, rule.owner? = some owner → s.owner? ≠ some owner := by
      intro s hs owner howner hsame
      obtain rfl := Option.some.inj (hnumber.symm.trans howner)
      obtain ⟨id, heq, hlt⟩ := h.lt_next s hs _ hsame
      obtain rfl := Owner.rule.inj heq
      exact Nat.lt_irrefl _ hlt
    intro r hr s hs owner hrowner hsowner
    obtain rfl | hold := List.mem_cons.mp hr
    · obtain rfl | hlater := List.mem_cons.mp hs
      · rfl
      · exact absurd hsowner (hnew s hlater owner hrowner)
    · obtain rfl | hlater := List.mem_cons.mp hs
      · exact absurd hrowner (hnew r hold owner hsowner)
      · exact ih r hold s hlater owner hrowner hsowner
  | @clone next made rule copy h hrule hnumber hsubs ih =>
    -- the clone counts as the rule that it was made from
    have horigin : ∀ r ∈ copy :: made, ∃ r' ∈ made, r.owner? = r'.owner? ∧
        r.subrules = r'.subrules :=
      List.forall_mem_cons.mpr ⟨⟨rule, hrule, hnumber, hsubs⟩, fun r hr => ⟨r, hr, rfl, rfl⟩⟩
    intro r hr s hs owner hrowner hsowner
    obtain ⟨r', hr', hrnumber, hrsubs⟩ := horigin r hr
    obtain ⟨s', hs', hsnumber, hssubs⟩ := horigin s hs
    rw [hrsubs, hssubs]
    exact ih r' hr' s' hs' owner (hrnumber ▸ hrowner) (hsnumber ▸ hsowner)

end Made

end Rule

/-! ## Parsers -/

/-- What a parse may fail for: tokens that no rule matches, or what validators complain about. -/
def Error.OfInput : Error → Prop
  | .unparsedTokens _ | .requiredAttributeMissing _ _ | .notEnoughValues _ _ _ _
  | .tooManyValues _ _ _ _ => True
  | _ => False

theorem Error.OfValidator.ofInput {e : Error} (h : e.OfValidator) : e.OfInput := by
  cases e with
  | unparsedTokens _ => trivial
  | _ => exact h

namespace TokenParser

/-- Whatever the tokens and the attributes at the start, a lenient parse ends well, and a strict one
ends well or fails for its input. -/
def Reliable (p : TokenParser) : Prop :=
  ∀ (tokens : List String) (seed : Option Namespace),
    (∀ dests, ∃ ns unparsed, p.parseLenient tokens seed dests = .ok (ns, unparsed)) ∧
      ((∃ ns, p.parseStrict tokens seed = .ok ns) ∨
        ∃ e, p.parseStrict tokens seed = .error e ∧ e.OfInput)

variable {p : TokenParser}

theorem Sound.reliable (h : p.Sound) : p.Reliable := by
  refine fun tokens seed => ⟨fun dests => ?_, ?_⟩
  · obtain ⟨unparsed, st, -, heq⟩ := h.parse_eq (.lenient dests) tokens seed
    obtain ⟨ns, hns⟩ := validate_lenient dests p.validators st.attributes
    refine ⟨ns, unparsed, ?_⟩
    rw [parseLenient, heq, hns]
    rfl
  · obtain ⟨unparsed, st, -, heq⟩ := h.parse_eq .strict tokens seed
    rw [parseStrict, heq]
    split
    · exact .inr ⟨_, rfl, trivial⟩
    · obtain ⟨ns, hns, -⟩ | ⟨e, hfirst, herror⟩ :=
        validate_strict_cases p.validators st.attributes
      · rw [hns]
        exact .inl ⟨ns, rfl⟩
      · rw [herror]
        exact .inr ⟨e, rfl, hfirst.ofValidator.ofInput⟩

/-- The rule stands somewhere in the rules of the parser. -/
def Has (p : TokenParser) (rule : Rule) : Prop := ∃ root ∈ p.rules, root.Occurs rule

/-- The parser is put together from rules of the library, with handlers that are built in. One rule
may stand in several places, and so may clones of it, which have its number and the rules below
it. -/
structure Composed (p : TokenParser) : Prop where
  library : ∀ r ∈ p.rules, r.Library Handler.BuiltIn
  numbered : ∀ {rule clone : Rule} {owner : Owner}, p.Has rule → p.Has clone →
    rule.owner? = some owner → clone.owner? = some owner → clone.subrules = rule.subrules

/-- No rule stands below one with its number: it would be below itself. -/
theorem Composed.apart (h : p.Composed) : ∀ r ∈ p.rules, r.Apart := by
  intro root hroot
  refine Rule.each_iff_occurs.mpr fun rule hrule owner howner sub hsub => ?_
  refine Rule.each_iff_occurs.mpr fun clone hclone hsame => ?_
  have hbelow : root.Occurs clone := hrule.trans (.sub hsub hclone)
  have hsubs := h.numbered ⟨root, hroot, hrule⟩ ⟨root, hroot, hbelow⟩ howner hsame
  have hlt := Rule.sizeOf_lt_of_mem_subrules (hsubs ▸ hsub : sub ∈ clone.subrules)
  exact absurd hclone.sizeOf_le (Nat.not_le.mpr hlt)

/-- Rules of the library that were made one after the other are put together so. -/
theorem Composed.of_made {next : Nat} {made : List Rule} (h : Rule.Made next made)
    (hmade : ∀ r ∈ p.rules, r ∈ made) (hlibrary : ∀ r ∈ p.rules, r.Library Handler.BuiltIn) :
    p.Composed := by
  refine ⟨hlibrary, ?_⟩
  rintro rule clone owner ⟨r, hr, hrule⟩ ⟨s, hs, hclone⟩ howner hsame
  exact h.subrules_eq rule (h.mem_of_occurs r (hmade r hr) rule hrule) clone
    (h.mem_of_occurs s (hmade s hs) clone hclone) owner howner hsame

theorem Composed.sound (h : p.Composed) : p.Sound :=
  sound_of_builtIn fun r hr => ⟨h.library r hr, h.apart r hr⟩

end TokenParser

/-! ## Grammar files -/

theorem exists_of_mem_mapM {α β : Type} {read : α → Option β} {items : List α} {values : List β}
    (h : items.mapM read = some values) : ∀ b ∈ values, ∃ a, read a = some b := by
  induction items generalizing values with
  | nil =>
    obtain rfl := Option.some.inj h
    exact fun b hb => absurd hb List.not_mem_nil
  | cons a items ih =>
    rw [List.mapM_cons] at h
    obtain ⟨b, hread, h⟩ := Option.bind_eq_some_iff.mp h
    obtain ⟨bs, hrest, h⟩ := Option.bind_eq_some_iff.mp h
    obtain rfl := Option.some.inj h
    exact List.forall_mem_cons.mpr ⟨⟨a, hread⟩, ih hrest⟩

/-- Each item of a list in a document is read from a document. -/
theorem Document.exists_of_mem_list {α : Type} {read : Document → Option α} {d : Document}
    {values : List α} (h : d.list? read = some values) : ∀ b ∈ values, ∃ d, read d = some b := by
  cases d with
  | sequence items isRecord isPlain => exact exists_of_mem_mapM h
  | scalar s =>
    rw [list?] at h
    split at h
    · obtain rfl := Option.some.inj h
      exact fun b hb => absurd hb List.not_mem_nil
    · cases h
  | mapping entries choice => cases h

/-- No field of a file gives a handler. -/
theorem Argument.handlers_ofDocument {d : Document} {a : Argument}
    (h : Argument.ofDocument? d = some a) : a.handler = none ∧ a.rawHandler = none := by
  rw [ofDocument?] at h
  -- the record, then field by field
  iterate 22 obtain ⟨_, -, h⟩ := Option.bind_eq_some_iff.mp h
  obtain rfl := Option.some.inj h
  exact ⟨rfl, rfl⟩

namespace GrammarFile

variable {ok : Handler → Prop} {g : GrammarFile}

/-- The arguments of a file have no handlers but the built-in ones. -/
theorem handlers_ofDocument {d : Document} (h : ofDocument? d = some g) :
    ∀ a ∈ g.arguments, a.Handlers ok := by
  rw [ofDocument?] at h
  obtain ⟨fields, -, h⟩ := Option.bind_eq_some_iff.mp h
  obtain ⟨settings, -, h⟩ := Option.bind_eq_some_iff.mp h
  obtain ⟨defaults, -, h⟩ := Option.bind_eq_some_iff.mp h
  obtain ⟨arguments, harguments, h⟩ := Option.bind_eq_some_iff.mp h
  obtain rfl := Option.some.inj h
  intro a ha
  have hread : ∃ d, Argument.ofDocument? d = some a := by
    rw [Document.field?] at harguments
    split at harguments
    · exact Document.exists_of_mem_list harguments a ha
    · obtain rfl := Option.some.inj harguments
      cases ha
  obtain ⟨d, hd⟩ := hread
  obtain ⟨hhandler, hrawHandler⟩ := Argument.handlers_ofDocument hd
  have hnone : ∀ h ∈ (none : Option Handler), ok h :=
    fun h hmem => absurd hmem (Option.not_mem_none h)
  exact ⟨hhandler ▸ hnone, hrawHandler ▸ hnone⟩

theorem built_declare {p q : ArgumentParser} {arguments : List Argument} {index : Nat}
    (hp : p.Built ok) (ha : ∀ a ∈ arguments, a.Handlers ok)
    (h : declare index p arguments = .ok q) : q.Built ok := by
  induction arguments generalizing index p with
  | nil =>
    obtain rfl := Except.ok.inj h
    exact hp
  | cons a rest ih =>
    obtain ⟨hfirst, hrest⟩ := List.forall_mem_cons.mp ha
    rw [declare] at h
    split at h
    · rename_i rule next hadd
      exact ih (.addArgument hfirst hp hadd) hrest h
    · cases h

/-- The argument parser of a grammar file is one that calls of the facade lead to. -/
theorem built_toParser {base : Settings} {q : ArgumentParser}
    (ha : ∀ a ∈ g.arguments, a.Handlers ok) (h : g.toParser base = .ok q) : q.Built ok := by
  have hsettings : ArgumentParser.Built ok
      { settings := g.settings.onto base, defaults := g.settings.argumentDefaults } :=
    .setDefaults g.settings.argumentDefaults (.setIgnoreCase (g.settings.onto base).ignoreCase
      (.setPrefixChars (g.settings.onto base).prefixChars .new))
  have hdefaults {p : ArgumentParser} (hp : p.Built ok) (entries : List (String × Value)) :
      (entries.foldl (fun p entry => p.setDefault entry.1 entry.2) p).Built ok := by
    induction entries generalizing p with
    | nil => exact hp
    | cons entry entries ih => exact ih (.setDefault entry.1 entry.2 hp)
  exact built_declare (hdefaults hsettings _) ha h

end GrammarFile

/-! ## Everything of the library -/

theorem ArgumentParser.Built.reliable {q : ArgumentParser} (h : q.Built Handler.BuiltIn) :
    q.compile.Reliable := by
  refine TokenParser.Sound.reliable (TokenParser.sound_of_builtIn ?_)
  rw [h.rules_compile]
  exact h.sound fun _ hb => hb

namespace TokenParser

/-- Compositions of library rules, declared grammars and the grammars of files fail for their input
only. -/
theorem reliable_of_library :
    (∀ p : TokenParser, p.Composed → p.Reliable) ∧
      (∀ q : ArgumentParser, q.Built Handler.BuiltIn → q.compile.Reliable) ∧
      ∀ (d : Document) (g : GrammarFile) (base : Settings) (q : ArgumentParser),
        GrammarFile.ofDocument? d = some g → g.toParser base = .ok q → q.compile.Reliable :=
  ⟨fun _ h => h.sound.reliable, fun _ h => h.reliable, fun _ _ _ _ hd hq =>
    (GrammarFile.built_toParser (GrammarFile.handlers_ofDocument hd) hq).reliable⟩

/-- Any token but a point. -/
def item : Rule := .all 1 [.not 0 (.oneOf ["."] false), .skip 1]

/-- An item that is recorded in a way. -/
def recorded (handler : Handler) : Rule := .capture 2 ["items"] item none handler

/-- An item and two more that are recorded, or one that is recorded in another way. The rule of an
item stands in several places, and so does the one that records, and a clone of it. -/
def items : TokenParser :=
  ⟨[.all 3 [item, recorded .append, recorded .append], recorded .extend],
    [.count "items" ⟨1, some 2⟩ none]⟩

theorem composed_items : items.Composed := by
  have hpoint : Rule.Made 0 [.oneOf ["."] false] := .leaf .none rfl rfl
  have hnot : Rule.Made 1 (.not 0 (.oneOf ["."] false) :: _) :=
    .fresh hpoint rfl (by simp [Rule.subrules])
  have hskip : Rule.Made 1 (.skip 1 :: _) := .leaf hnot rfl rfl
  have hitem : Rule.Made 2 (item :: _) := .fresh hskip rfl (by simp [item, Rule.subrules])
  have hrecorded : Rule.Made 3 (recorded .append :: _) :=
    .fresh hitem rfl (by simp [recorded, Rule.subrules])
  have hclone : Rule.Made 3 (recorded .extend :: _) :=
    .clone hrecorded List.mem_cons_self rfl rfl
  have hall : Rule.Made 4 (.all 3 [item, recorded .append, recorded .append] :: _) :=
    .fresh hclone rfl (by simp [Rule.subrules])
  refine .of_made hall (by simp [items]) ?_
  simp [items, item, recorded, Rule.Library, Rule.OfLibrary, Rule.oneOf, Handler.BuiltIn]

/-- A file with a flag. -/
def flagFile : Document :=
  .ofJson (.object [("arguments", .array
    [.object [("names", .array [.string "-c"]), ("action", .string "store_true")]])])

/-- Rules and clones of them in several places, declared arguments, and a file. -/
theorem reliable_of_library_items :
    items.Reliable ∧ (∃ q, ArgumentParser.levels = .ok q ∧ q.compile.Reliable) ∧
      ∃ g q, GrammarFile.ofDocument? flagFile = some g ∧ g.toParser {} = .ok q ∧
        q.compile.Reliable := by
  obtain ⟨hcomposed, hdeclared, hfile⟩ := reliable_of_library
  refine ⟨hcomposed items composed_items, ?_, ?_⟩
  · have heval : ArgumentParser.levels.toOption.isSome = true := by decide +kernel
    cases hq : ArgumentParser.levels with
    | error e =>
      rw [hq] at heval
      cases heval
    | ok q => exact ⟨q, rfl, hdeclared q (ArgumentParser.built_levels hq)⟩
  · have heval : ((GrammarFile.ofDocument? flagFile).bind
        fun g => (g.toParser {}).toOption).isSome = true := by decide +kernel
    obtain ⟨q, hq⟩ := Option.isSome_iff_exists.mp heval
    obtain ⟨g, hg, hq⟩ := Option.bind_eq_some_iff.mp hq
    cases hp : g.toParser {} with
    | error e =>
      rw [hp] at hq
      cases hq
    | ok q => exact ⟨g, q, hg, hp, hfile flagFile g {} q hg hp⟩

end TokenParser

end TokenGrammar
