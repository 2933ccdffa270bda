import TokenGrammar.Proofs.Compilation
import TokenGrammar.Proofs.Occurrences

/-!
# Arguments in another order

The occurrences of different optional arguments may change places, and so may an occurrence of an
optional argument and a token of a positional one. Each of them is a block that a round consumes as
a whole. What one of them writes and what the other one reads and writes have nothing in common.

* `Memory.Commutes`: an update before and after a change. `Memory.write_comm`,
  `Declaration.positionalUpdate_write` for the updates of arguments;
* `Call.argument?`, `Declaration.Role`: the arguments by their numbers, and what their rules are;
* `Block.Of`: the blocks of a grammar, which `Block.of_separate` finds where `Call.Separate` holds.
  `Block.Reordered`: rows of them that differ by such changes;
* `Block.exists_means`: what a round does with a block;
* `ArgumentParser.Declares.parse_reordered`: a strict parse that ends well does so in all of them,
  with the same attributes.
-/

namespace TokenGrammar

/-! ## Updates that commute -/

namespace Handler

/-- What is written depends on what stands at the destination. -/
theorem value?_congr (handler : Handler) {ns ns' : Namespace} {dest : String}
    (h : ns'.get? dest = ns.get? dest) (value : Value) :
    handler.value? ns' dest value = handler.value? ns dest value := by
  cases handler <;> simp [value?, h]

/-- Writes to different destinations may change places. -/
theorem write_comm (handler handler' : Handler) {dest dest' : String} (hne : dest ≠ dest')
    (value value' : Value) (ns : Namespace) :
    handler.write dest value (handler'.write dest' value' ns) =
      handler'.write dest' value' (handler.write dest value ns) := by
  refine Namespace.ext_get? fun name => ?_
  by_cases hname : name = dest
  · subst hname
    have hfirst := handler'.get?_write hne value' ns
    rw [get?_write_self, handler.value?_congr hfirst, hfirst, handler'.get?_write hne,
      get?_write_self]
  · rw [handler.get?_write hname]
    by_cases hname' : name = dest'
    · subst hname'
      have hsecond := handler.get?_write hname value ns
      rw [get?_write_self, get?_write_self, handler'.value?_congr hsecond, hsecond]
    · rw [handler'.get?_write hname', handler'.get?_write hname', handler.get?_write hname]

end Handler

namespace Memory

/-- The update does the same before a change as after it. -/
def Commutes (update : Memory → Option Memory) (change : Memory → Memory) : Prop :=
  ∀ m, update (change m) = (update m).map change

theorem Commutes.or {update updates : Memory → Option Memory} {change : Memory → Memory}
    (h : Commutes update change) (h' : Commutes updates change) :
    Commutes (fun m => (update m).or (updates m)) change := by
  intro m
  show (update (change m)).or (updates (change m)) = ((update m).or (updates m)).map change
  rw [h, h', Option.map_or]

/-- An update and a change that commute may change places. -/
theorem Commutes.bind {update : Memory → Option Memory} {change : Memory → Memory}
    (h : Commutes update change) (m : Memory) :
    (some (change m)).bind update = (update m).bind fun m => some (change m) := by
  rw [Option.bind_some, h]
  cases update m <;> rfl

variable {handler handler' : Handler} {dest dest' : String} {value value' : Value}

theorem write_comm (hne : dest ≠ dest') (m : Memory) :
    (m.write handler' dest' value').write handler dest value =
      (m.write handler dest value).write handler' dest' value' :=
  congrArg (Memory.mk · m.scratch) (Handler.write_comm handler handler' hne value value' _)

theorem count_write (id : Nat) (most : Option Nat) (m : Memory) :
    (m.write handler dest value).count id most =
      (m.count id most).map (·.write handler dest value) := by
  rw [count, count]
  show (if most.any (Int64.ofNat · ≤ m.scratch.count id) then none else some _) = _
  split <;> rfl

end Memory

/-- What a positional argument makes of a token has nothing to do with other attributes. -/
theorem Declaration.positionalUpdate_write {base : Nat} {r : ResolvedArgument}
    {dest dest' : String} (hne : dest ≠ dest') (token : String) (handler : Handler)
    (value : Value) :
    Memory.Commutes (positionalUpdate base r dest token) (·.write handler dest' value) := by
  intro m
  rw [positionalUpdate, positionalUpdate, Memory.count_write]
  split
  · rfl
  · cases m.count (base + 2) (positionalLimit false r.nargs).bounds.most with
    | none => rfl
    | some m' =>
      cases (valueFilter r).value? token with
      | none => rfl
      | some taken => exact congrArg some (Memory.write_comm hne m')

/-! ## Arguments by number -/

/-- An argument with built-in handlers that records no tokens. An optional one has a count that is
undeclared or exact and is not declared as a flag and its opposite, and a positional one does not
append. -/
structure Argument.Plain (settings : Settings) (a : Argument) : Prop where
  handlers : a.Handlers Handler.BuiltIn
  rawDest : a.rawDest.getD [] = []
  optional : Declaration.isOptional a (a.prefixChars.getD settings.prefixChars) = true →
    a.action ≠ some .msvcFlag ∧ (a.nargs = none ∨ ∃ n, a.nargs = some (.exactly n))
  positional : Declaration.isOptional a (a.prefixChars.getD settings.prefixChars) = false →
    a.append = false ∧ a.action ≠ some .append ∧ a.action ≠ some .appendConst

namespace Call

/-- The arguments among the calls are plain. -/
def Plain : Call → Prop
  | .argument settings a => a.Plain settings
  | .default _ _ => True

/-- The arguments of a row of calls, with the settings that they met. -/
def arguments : List Call → List (Settings × Argument)
  | [] => []
  | .argument settings a :: calls => (settings, a) :: arguments calls
  | .default _ _ :: calls => arguments calls

theorem mem_of_mem_arguments {calls : List Call} {settings : Settings} {a : Argument}
    (h : (settings, a) ∈ arguments calls) : Call.argument settings a ∈ calls := by
  induction calls with
  | nil => exact nomatch h
  | cons call calls ih =>
    cases call with
    | argument settings' a' =>
      obtain heq | h := List.mem_cons.mp h
      · obtain ⟨rfl, rfl⟩ := Prod.mk.inj heq
        exact List.mem_cons_self
      · exact List.mem_cons_of_mem _ (ih h)
    | default dest value => exact List.mem_cons_of_mem _ (ih h)

/-- Each rule of a grammar is that of the argument with its number. -/
theorem getElem?_compile {number : Nat} {calls : List Call} {p : TokenParser}
    (h : compile number calls = .ok p) (i : Nat) :
    (p.rules[i]? = none ∧ (arguments calls)[i]? = none) ∨
      ∃ settings a d, (arguments calls)[i]? = some (settings, a) ∧
        Declaration.ofArgument ((number + i) * Declaration.width) a settings {} = .ok d ∧
        p.rules[i]? = some d.rule := by
  induction calls generalizing number p i with
  | nil =>
    cases h
    exact .inl ⟨rfl, rfl⟩
  | cons call calls ih =>
    cases call with
    | argument settings a =>
      obtain ⟨d, rest, hd, hrest, rfl⟩ := compile_argument.mp h
      cases i with
      | zero => exact .inr ⟨settings, a, d, rfl, hd, rfl⟩
      | succ i =>
        have hlater := ih hrest i
        rw [Nat.add_assoc, Nat.add_comm 1 i] at hlater
        exact hlater
    | default dest value =>
      obtain ⟨rest, hrest, rfl⟩ := compile_default.mp h
      exact ih hrest i

/-- The argument with this number, as it is resolved and adjusted to its action. -/
def argument? (calls : List Call) (i : Nat) : Option ResolvedArgument := do
  let (settings, a) ← (arguments calls)[i]?
  let resolved ← (Declaration.resolve a settings).toOption
  (Declaration.adjust resolved (a.action.getD .store)).toOption

theorem argument?_eq_some {calls : List Call} {i : Nat} {settings : Settings} {a : Argument}
    {resolved r : ResolvedArgument} (ha : (arguments calls)[i]? = some (settings, a))
    (hresolve : Declaration.resolve a settings = .ok resolved)
    (hadjust : Declaration.adjust resolved (a.action.getD .store) = .ok r) :
    argument? calls i = some r := by
  simp [argument?, ha, hresolve, hadjust, Except.toOption]

end Call

/-- The destination of an argument, named or made up. -/
def Declaration.destination (base : Nat) (r : ResolvedArgument) : String :=
  r.dest.getD (anonymousDest base)

/-- The arguments have different destinations. -/
def Call.Distinct (calls : List Call) : Prop :=
  ∀ i j r s, argument? calls i = some r → argument? calls j = some s →
    Declaration.destination (i * Declaration.width) r =
      Declaration.destination (j * Declaration.width) s → i = j

namespace Declaration

variable {base : Nat} {r s : ResolvedArgument} {action : Action} {rule : Rule}

/-- The rule of a plain argument: that of an optional one with an exact count, that of a positional
one that does not append, or one that never matches. -/
inductive Role (base : Nat) (r : ResolvedArgument) : Rule → Prop where
  | optional {flags prefixes : List String} {n : Nat} (kind : r.kind = .optional flags prefixes)
      (bounds : Nargs.boundsOf r.nargs = ⟨n, some n⟩) :
      Role base r (optionalRule base r (destination base r) flags prefixes)
  | positional {name : String} (kind : r.kind = .positional name) (append : r.append = false) :
      Role base r (positionalRule base r (destination base r))
  | never {name trueSuffix falseSuffix : String} (kind : r.kind = .positional name)
      (rawDest : r.rawDest = []) : Role base r (flagPair base r trueSuffix falseSuffix).rule

/-- What an action leaves of the kind, the count and the way to store of an argument. -/
theorem adjust_parts (h : adjust r action = .ok s) :
    (s.kind = r.kind ∨ s.kind = colonKind r.kind) ∧
      (s.nargs = r.nargs ∨ s.nargs = some (.exactly 0)) ∧
      (action ≠ .append → action ≠ .appendConst → s.append = r.append) := by
  cases action with
  | storeConst =>
    obtain ⟨-, rfl⟩ := withConstant_eq_ok.mp h
    exact ⟨.inl rfl, .inr rfl, fun _ _ => rfl⟩
  | appendConst =>
    obtain ⟨-, rfl⟩ := appendConst_eq_ok.mp h
    exact ⟨.inl rfl, .inr rfl, fun _ hconst => absurd rfl hconst⟩
  | append =>
    obtain rfl := Except.ok.inj h
    exact ⟨.inl rfl, .inl rfl, fun happend => absurd rfl happend⟩
  | storeTrue | storeFalse =>
    obtain rfl := Except.ok.inj h
    exact ⟨.inl rfl, .inr rfl, fun _ _ => rfl⟩
  | msvcFlagWithValue =>
    obtain rfl := Except.ok.inj h
    exact ⟨.inr rfl, .inl rfl, fun _ _ => rfl⟩
  | store | msvcFlag =>
    obtain rfl := Except.ok.inj h
    exact ⟨.inl rfl, .inl rfl, fun _ _ => rfl⟩

theorem boundsOf_exact {nargs : Option Nargs} (h : nargs = none ∨ ∃ n, nargs = some (.exactly n)) :
    ∃ n, Nargs.boundsOf nargs = ⟨n, some n⟩ := by
  obtain rfl | ⟨n, rfl⟩ := h
  · exact ⟨1, rfl⟩
  · exact ⟨n.toNat, rfl⟩

theorem role_of_optional {flags prefixes : List String} (hraw : r.rawDest = [])
    (hkind : r.kind = .optional flags prefixes)
    (hnargs : r.nargs = none ∨ ∃ n, r.nargs = some (.exactly n)) :
    Role base r (build base r).rule := by
  obtain ⟨n, hbounds⟩ := boundsOf_exact hnargs
  rw [rule_build_of_rawDest hraw, bareRule, hkind]
  exact .optional hkind hbounds

theorem role_of_positional {name : String} (hraw : r.rawDest = [])
    (hkind : r.kind = .positional name) (happend : r.append = false) :
    Role base r (build base r).rule := by
  rw [rule_build_of_rawDest hraw, bareRule, hkind]
  exact .positional hkind happend

section Plain

variable {settings : Settings} {a : Argument} {resolved : ResolvedArgument}

theorem action_ne (hne : a.action ≠ some action) (hstore : action ≠ .store) :
    a.action.getD .store ≠ action := by
  cases hact : a.action with
  | none => exact hstore.symm
  | some given => exact fun heq => hne (hact.trans (congrArg some heq))

/-- An optional argument stays one, with a count that is undeclared or exact. -/
theorem role_of_adjust_optional (ha : a.Plain settings)
    (hresolve : resolve a settings = .ok resolved)
    (hadjust : adjust resolved (a.action.getD .store) = .ok r) (hraw : r.rawDest = [])
    (hoptional : isOptional a (a.prefixChars.getD settings.prefixChars) = true) :
    Role base r (build base r).rule := by
  obtain ⟨hkinds, hcounts, -⟩ := adjust_parts hadjust
  have hnargs : resolved.nargs = a.nargs := by
    obtain ⟨regexp, kinded, -, -, rfl⟩ := resolve_eq_ok.mp hresolve
    rfl
  have hexact : r.nargs = none ∨ ∃ n, r.nargs = some (.exactly n) := by
    obtain heq | heq := hcounts
    · rw [heq, hnargs]
      exact (ha.optional hoptional).2
    · exact .inr ⟨0, heq⟩
  obtain ⟨⟨flags, prefixes, hkind⟩, -⟩ := resolve_optional hresolve hoptional
  rw [hkind] at hkinds
  obtain hkind | hkind := hkinds
  · exact role_of_optional hraw hkind hexact
  · exact role_of_optional hraw hkind hexact

/-- A positional argument stays one that does not append. -/
theorem role_of_adjust_positional (ha : a.Plain settings)
    (hresolve : resolve a settings = .ok resolved)
    (hadjust : adjust resolved (a.action.getD .store) = .ok r) (hraw : r.rawDest = [])
    (hpositional : isOptional a (a.prefixChars.getD settings.prefixChars) = false) :
    Role base r (build base r).rule := by
  obtain ⟨hkinds, -, hkept⟩ := adjust_parts hadjust
  obtain ⟨hone, hno, hnot⟩ := ha.positional hpositional
  have happend : resolved.append = a.append := by
    obtain ⟨regexp, kinded, -, -, rfl⟩ := resolve_eq_ok.mp hresolve
    rfl
  obtain ⟨name, hkind⟩ := resolve_positional hresolve (Bool.eq_false_iff.mp hpositional)
  rw [hkind] at hkinds
  have hsame : r.append = resolved.append := hkept (action_ne hno nofun) (action_ne hnot nofun)
  exact role_of_positional hraw (hkinds.elim id id) (hsame.trans (happend.trans hone))

/-- What the rule of a plain argument is. -/
theorem role_of_plain {d : Declaration} (h : ofArgument base a settings {} = .ok d)
    (ha : a.Plain settings) :
    ∃ resolved, resolve a settings = .ok resolved ∧
      ∃ r, adjust resolved (a.action.getD .store) = .ok r ∧ r.Handlers Handler.BuiltIn ∧
        Role base r d.rule := by
  obtain ⟨-, resolved, hresolve, hd⟩ := ofArgument_eq_ok.mp h
  have hhandlers := handlers_resolve ha.handlers hresolve
  have hraw : resolved.rawDest = [] := (resolve_keeps hresolve).2.1.trans ha.rawDest
  refine ⟨resolved, hresolve, ?_⟩
  obtain ⟨-, r, hr, rfl⟩ | ⟨hflag, rfl⟩ := applyAction_eq_ok.mp hd
  · have halike := adjust_alike hr
    have hnone : r.rawDest = [] := halike.rawDest.trans hraw
    refine ⟨r, hr, halike.handlers hhandlers, ?_⟩
    cases hoptional : isOptional a (a.prefixChars.getD settings.prefixChars) with
    | true => exact role_of_adjust_optional ha hresolve hr hnone hoptional
    | false => exact role_of_adjust_positional ha hresolve hr hnone hoptional
  · have hr : adjust resolved (a.action.getD .store) = .ok resolved := by
      rw [hflag]
      rfl
    refine ⟨resolved, hr, hhandlers, ?_⟩
    cases hoptional : isOptional a (a.prefixChars.getD settings.prefixChars) with
    | true => exact absurd hflag (action_ne (ha.optional hoptional).1 nofun)
    | false =>
      obtain ⟨name, hkind⟩ := resolve_positional hresolve (Bool.eq_false_iff.mp hoptional)
      exact .never hkind hraw

end Plain

end Declaration

/-- Each rule of a grammar of plain arguments has the role of the argument with its number. -/
theorem Call.exists_role {calls : List Call} {p : TokenParser} (h : compile 0 calls = .ok p)
    (hplain : ∀ call ∈ calls, call.Plain) {i : Nat} {rule : Rule}
    (hrule : p.rules[i]? = some rule) :
    ∃ r, argument? calls i = some r ∧ r.Handlers Handler.BuiltIn ∧
      Declaration.Role (i * Declaration.width) r rule := by
  obtain ⟨hnone, -⟩ | ⟨settings, a, d, ha, hd, hsome⟩ := getElem?_compile h i
  · exact nomatch hnone.symm.trans hrule
  · obtain rfl := Option.some.inj (hsome.symm.trans hrule)
    have hargument : a.Plain settings :=
      hplain _ (mem_of_mem_arguments (List.mem_of_getElem? ha))
    rw [Nat.zero_add] at hd
    obtain ⟨resolved, hresolve, r, hr, hhandlers, hrole⟩ :=
      Declaration.role_of_plain hd hargument
    exact ⟨r, argument?_eq_some ha hresolve hr, hhandlers, hrole⟩

/-- An argument with a number has a rule with the number. -/
theorem Call.exists_rule {calls : List Call} {p : TokenParser} {i : Nat} {r : ResolvedArgument}
    (h : compile 0 calls = .ok p) (hr : argument? calls i = some r) :
    ∃ rule, p.rules[i]? = some rule := by
  obtain ⟨-, hnone⟩ | ⟨_, _, d, -, -, hsome⟩ := getElem?_compile h i
  · simp [argument?, hnone] at hr
  · exact ⟨d.rule, hsome⟩

/-- The grammar keeps its flags apart: no flag of an optional argument is recognised by another one,
and every positional argument takes it for a flag. -/
def Call.Separate (calls : List Call) : Prop :=
  ∀ i r flags prefixes flag, argument? calls i = some r → r.kind = .optional flags prefixes →
    flag ∈ flags →
      (∀ j s, j ≠ i → argument? calls j = some s → ¬ s.Recognises flag) ∧
        ∀ j s name, argument? calls j = some s → s.kind = .positional name →
          startsWithAny s.prefixChars flag

/-! ## Blocks -/

/-- Tokens that belong together. -/
inductive Block where
  /-- A flag of the optional argument with a number, and its values. -/
  | option (number : Nat) (flag : String) (values : List String)
  | single (token : String)

namespace Block

def tokens : Block → List String
  | .option _ flag values => flag :: values
  | .single token => [token]

/-- The block is one of a grammar. A flag belongs to its argument only: no other optional argument
recognises it, and every positional one takes it for a flag. There are as many values as the
argument takes, and each of them is accepted and converted. Any other token is one that no optional
argument recognises. -/
def Of (calls : List Call) : Block → Prop
  | .option i flag values => ∃ r, Call.argument? calls i = some r ∧ r.HasFlag flag ∧
      values.length = (Nargs.boundsOf r.nargs).least ∧
      (∀ value ∈ values, ((Declaration.valueFilter r).value? value).isSome) ∧
      (∀ j s, j ≠ i → Call.argument? calls j = some s → ¬ s.Recognises flag) ∧
      ∀ j s name, Call.argument? calls j = some s → s.kind = .positional name →
        startsWithAny s.prefixChars flag
  | .single token => ∀ i r, Call.argument? calls i = some r → ¬ r.Recognises token

/-- In a grammar that keeps its flags apart, a flag in a spelling that was declared and as many
values as its argument takes are a block. -/
theorem of_separate {calls : List Call} (hseparate : Call.Separate calls) {i : Nat}
    {r : ResolvedArgument} {flags prefixes : List String} {flag : String} {values : List String}
    (hr : Call.argument? calls i = some r) (hkind : r.kind = .optional flags prefixes)
    (hflag : flag ∈ flags) (hcount : values.length = (Nargs.boundsOf r.nargs).least)
    (hvalues : ∀ value ∈ values, ((Declaration.valueFilter r).value? value).isSome) :
    (Block.option i flag values).Of calls := by
  obtain ⟨hothers, hpositional⟩ := hseparate i r flags prefixes flag hr hkind hflag
  exact ⟨r, hr, r.hasFlag_of_mem hkind hflag, hcount, hvalues, hothers, hpositional⟩

/-- The blocks may change places: they are of different optional arguments, or one of them is of an
optional argument and the other one is not. -/
def Independent : Block → Block → Prop
  | .option i _ _, .option j _ _ => i ≠ j
  | .single _, .single _ => False
  | _, _ => True

instance : DecidableRel Independent
  | .option i _ _, .option j _ _ => inferInstanceAs (Decidable (i ≠ j))
  | .single _, .single _ => inferInstanceAs (Decidable False)
  | .option .., .single _ | .single _, .option .. => inferInstanceAs (Decidable True)

/-- Two neighbours that may change places do. -/
inductive Swap : List Block → List Block → Prop where
  | mk (front back : List Block) {b c : Block} (independent : b.Independent c) :
      Swap (front ++ b :: c :: back) (front ++ c :: b :: back)

/-- Neighbours that may change places do so any number of times. -/
def Reordered : List Block → List Block → Prop := Relation.ReflTransGen Swap

theorem Swap.perm {blocks blocks' : List Block} (h : Swap blocks blocks') :
    blocks'.Perm blocks := by
  obtain ⟨front, back, -⟩ := h
  exact (List.Perm.swap ..).append_left front

/-- The update has nothing to do with the destinations of optional arguments. -/
def SparesOptions (calls : List Call) (update : Memory → Option Memory) : Prop :=
  ∀ i r flag, Call.argument? calls i = some r → r.HasFlag flag → ∀ handler value,
    Memory.Commutes update
      (·.write handler (Declaration.destination (i * Declaration.width) r) value)

/-- What a round does with a block: an option writes its destination, and any other token has
nothing to do with those of options. -/
inductive Means (p : TokenParser) (calls : List Call) : Block → (Memory → Option Memory) → Prop
  | option {i : Nat} {flag : String} {values : List String} {r : ResolvedArgument}
      {handler : Handler} {value : Value} (argument : Call.argument? calls i = some r)
      (flagged : r.HasFlag flag)
      (does : p.Does (flag :: values) fun m =>
        some (m.write handler (Declaration.destination (i * Declaration.width) r) value)) :
      Means p calls (.option i flag values) fun m =>
        some (m.write handler (Declaration.destination (i * Declaration.width) r) value)
  | single {token : String} {update : Memory → Option Memory} (does : p.Does [token] update)
      (apart : SparesOptions calls update) : Means p calls (.single token) update

variable {calls : List Call} {p : TokenParser}

/-- Where the tokens start with a flag of one argument, the rules of the others do not match. -/
theorem does_flag_none {base : Nat} {r : ResolvedArgument} {rule : Rule} {flag : String}
    (hr : r.Handlers Handler.BuiltIn) (hrole : Declaration.Role base r rule)
    (hoptional : ¬ r.Recognises flag)
    (hpositional : ∀ name, r.kind = .positional name → startsWithAny r.prefixChars flag)
    (values : List String) : rule.Does (flag :: values) fun _ => none := by
  cases hrole with
  | optional kind bounds => exact Declaration.does_optionalRule_none hr kind hoptional base _ values
  | positional kind append =>
    exact Declaration.does_positionalRule_none hr (hpositional _ kind) base _ values
  | never kind rawDest => exact Declaration.does_flagPair_none hr rawDest kind base _ _ _

/-- A round takes a flag and its values for those of the argument of the flag. -/
theorem exists_means_option (h : Call.compile 0 calls = .ok p)
    (hplain : ∀ call ∈ calls, call.Plain) (hsound : p.Sound) {i : Nat} {flag : String}
    {values : List String} (hb : (Block.option i flag values).Of calls) :
    ∃ update, Means p calls (.option i flag values) update := by
  obtain ⟨r, hr, hflag, hcount, hvalues, hothers, hpositional⟩ := hb
  obtain ⟨rule, hrule⟩ := Call.exists_rule h hr
  obtain ⟨r', hr', hhandlers, hrole⟩ := Call.exists_role h hplain hrule
  obtain rfl := Option.some.inj (hr.symm.trans hr')
  have hdoes : ∃ handler value, rule.Does (flag :: values) fun m =>
      some (m.write handler (Declaration.destination (i * Declaration.width) r) value) := by
    cases hrole with
    | optional kind bounds =>
      have hlength : values.length = _ := hcount.trans (congrArg Bounds.least bounds)
      exact ⟨_, _, Declaration.does_optionalRule hhandlers kind hflag bounds hlength hvalues _ _⟩
    | positional kind | never kind =>
      rw [ResolvedArgument.HasFlag, kind] at hflag
      exact hflag.elim
  obtain ⟨handler, value, hdoes⟩ := hdoes
  have hfirst := Rule.firstDoes_of_getElem? hrule hdoes fun j other hj hother => by
    obtain ⟨s, hs, hhandlers', hrole'⟩ := Call.exists_role h hplain hother
    exact does_flag_none hhandlers' hrole' (hothers j s hj hs) (hpositional j s · hs) values
  exact ⟨_, .option hr hflag (hsound.does (List.cons_ne_nil _ _) hfirst)⟩

/-- A round takes any other token for one of a positional argument, or refuses it. Which of them it
is depends on the limits only. -/
theorem exists_means_single (h : Call.compile 0 calls = .ok p)
    (hplain : ∀ call ∈ calls, call.Plain) (hdests : Call.Distinct calls) (hsound : p.Sound)
    {token : String} (hb : (Block.single token).Of calls) :
    ∃ update, Means p calls (.single token) update := by
  have hnone : SparesOptions calls fun _ => none := fun _ _ _ _ _ _ _ _ => rfl
  have hrules : ∀ rule ∈ p.rules, ∃ update, rule.Does [token] update ∧
      SparesOptions calls update := by
    intro rule hrule
    obtain ⟨j, hj⟩ := List.mem_iff_getElem?.mp hrule
    obtain ⟨s, hs, hhandlers, hrole⟩ := Call.exists_role h hplain hj
    cases hrole with
    | optional kind bounds =>
      exact ⟨_, Declaration.does_optionalRule_none hhandlers kind (hb j s hs) _ _ _, hnone⟩
    | never kind rawDest =>
      exact ⟨_, Declaration.does_flagPair_none hhandlers rawDest kind _ _ _ _, hnone⟩
    | positional kind append =>
      refine ⟨_, Declaration.does_positionalRule hhandlers append _ _ token,
        fun i r flag hr hflag handler value => ?_⟩
      refine Declaration.positionalUpdate_write (fun heq => ?_) token handler value
      obtain rfl := hdests _ _ _ _ hs hr heq
      obtain rfl := Option.some.inj (hs.symm.trans hr)
      rw [ResolvedArgument.HasFlag, kind] at hflag
      exact hflag
  have hor (update updates : Memory → Option Memory) (h : SparesOptions calls update)
      (h' : SparesOptions calls updates) : SparesOptions calls fun m => (update m).or (updates m) :=
    fun i r flag hr hflag handler value =>
      (h i r flag hr hflag handler value).or (h' i r flag hr hflag handler value)
  obtain ⟨update, hfirst, hapart⟩ := Rule.exists_firstDoes hnone hor hrules
  exact ⟨update, .single (hsound.does (List.cons_ne_nil _ _) hfirst) hapart⟩

theorem exists_means (h : Call.compile 0 calls = .ok p) (hplain : ∀ call ∈ calls, call.Plain)
    (hdests : Call.Distinct calls) (hsound : p.Sound) {b : Block} (hb : b.Of calls) :
    ∃ update, Means p calls b update := by
  cases b with
  | option i flag values => exact exists_means_option h hplain hsound hb
  | single token => exact exists_means_single h hplain hdests hsound hb

/-- The updates of blocks that may change places may do so too. -/
theorem Means.comm (hdests : Call.Distinct calls) {b c : Block}
    {update updates : Memory → Option Memory} (hb : Means p calls b update)
    (hc : Means p calls c updates) (h : b.Independent c) (m : Memory) :
    (update m).bind updates = (updates m).bind update := by
  cases hb with
  | option hr hflag =>
    cases hc with
    | option hs _ =>
      exact congrArg some (Memory.write_comm (fun heq => h (hdests _ _ _ _ hr hs heq.symm)) m)
    | single _ apart => exact (apart _ _ _ hr hflag _ _).bind m
  | single _ apart =>
    cases hc with
    | option hr hflag => exact ((apart _ _ _ hr hflag _ _).bind m).symm
    | single => exact h.elim

theorem Means.does {b : Block} {update : Memory → Option Memory} (h : Means p calls b update) :
    b.tokens ≠ [] ∧ p.Does b.tokens update := by
  cases h with
  | option _ _ does => exact ⟨List.cons_ne_nil _ _, does⟩
  | single does => exact ⟨List.cons_ne_nil _ _, does⟩

/-- Rows of blocks in different orders have the same updates. -/
theorem Reordered.foldlM_eq (hdests : Call.Distinct calls) {blocks blocks' : List Block}
    {update : Block → Memory → Option Memory}
    (hmeans : ∀ b ∈ blocks, Means p calls b (update b)) (h : Reordered blocks blocks') :
    blocks'.Perm blocks ∧ ∀ m, blocks'.foldlM (fun m b => update b m) m =
      blocks.foldlM (fun m b => update b m) m := by
  induction h with
  | refl => exact ⟨.refl _, fun _ => rfl⟩
  | tail _ hswap ih =>
    obtain ⟨hperm, hsame⟩ := ih
    refine ⟨hswap.perm.trans hperm, fun m => .trans ?_ (hsame m)⟩
    obtain ⟨front, back, hindependent⟩ := hswap
    have hb := hmeans _ (hperm.mem_iff.mp (List.mem_append_right front List.mem_cons_self))
    have hc := hmeans _ (hperm.mem_iff.mp (List.mem_append_right front
      (List.mem_cons_of_mem _ List.mem_cons_self)))
    rw [List.foldlM_append, List.foldlM_append]
    refine congrArg _ (funext fun m => ?_)
    simp only [List.foldlM_cons, ← bind_assoc]
    exact congrArg (· >>= _) (hb.comm hdests hc hindependent m).symm

end Block

namespace ArgumentParser

/-- A strict parse of blocks ends well if it does so after any number of changes of neighbours that
may change places, and the attributes are the same. As everywhere, the buffer fits in memory. -/
theorem Declares.parse_reordered {p : ArgumentParser} {calls : List Call} (h : p.Declares calls)
    (hplain : ∀ call ∈ calls, call.Plain) (hdests : Call.Distinct calls)
    {blocks blocks' : List Block} (hblocks : ∀ b ∈ blocks, b.Of calls)
    (hsize : (blocks.flatMap Block.tokens).length < UInt64.size)
    (hreordered : Block.Reordered blocks blocks') (seed : Option Namespace) (ns : Namespace) :
    (p.parse (blocks.flatMap Block.tokens) seed).1 = .ok ns ↔
      (p.parse (blocks'.flatMap Block.tokens) seed).1 = .ok ns := by
  have hhandlers : ∀ call ∈ calls, call.Handlers Handler.BuiltIn := by
    intro call hcall
    cases call with
    | argument settings a => exact (hplain _ hcall).handlers
    | default dest value => trivial
  have hlibrary := (h.built hhandlers).sound fun _ hb => hb
  have hsound : TokenParser.Sound ⟨p.rules, p.validators⟩ := TokenParser.sound_of_builtIn hlibrary
  have hord : ∀ r ∈ p.rules, r.Orderly := fun r hr => (hlibrary r hr).1.orderly
  choose! update hmeans using fun b hb =>
    Block.exists_means h.compile_calls hplain hdests hsound (hblocks b hb)
  obtain ⟨hperm, hsame⟩ := hreordered.foldlM_eq hdests hmeans
  have hdoes := fun b hb => (hmeans b hb).does
  have hdoes' := fun b hb => hdoes b (hperm.mem_iff.mp hb)
  have hlength : (blocks'.flatMap Block.tokens).length = (blocks.flatMap Block.tokens).length :=
    (hperm.flatMap_right Block.tokens).length_eq
  have hsize' : (blocks'.flatMap Block.tokens).length < UInt64.size := hlength ▸ hsize
  rw [ArgumentParser.parse, ArgumentParser.parse, h.compile_eq]
  show TokenParser.parseStrict _ _ _ = .ok ns ↔ TokenParser.parseStrict _ _ _ = .ok ns
  rw [TokenParser.parseStrict_blocks hord hdoes hsize,
    TokenParser.parseStrict_blocks hord hdoes' hsize', hsame]

/-- An option with one value. -/
def outputFile : Argument := { names := ["-o"] }

/-- A flag. -/
def verbose : Argument := { names := ["-v"], action := some .storeTrue }

/-- Any number of files. -/
def files : Argument := { names := ["files"], nargs := some .zeroOrMore }

/-- The grammar of these arguments. -/
def intermixed : Except GrammarError ArgumentParser := do
  let (_, p) ← ({} : ArgumentParser).addArgument outputFile
  let (_, p) ← p.addArgument verbose
  let (_, p) ← p.addArgument files
  return p

/-- The calls of the grammar. -/
def intermixedCalls : List Call :=
  [.argument {} (outputFile.inherit {}), .argument {} (verbose.inherit {}),
    .argument {} (files.inherit {})]

/-- What the arguments of the grammar are. -/
theorem argument?_intermixed {i : Nat} {r : ResolvedArgument}
    (h : Call.argument? intermixedCalls i = some r) :
    (i = 0 ∧ r.kind = .optional ["-o"] ["-o"] ∧ r.dest = some "o" ∧ r.nargs = none ∧
        r.ignoreCase = false ∧ ((Declaration.valueFilter r).value? "-v").isSome) ∨
      (i = 1 ∧ r.kind = .optional ["-v"] ["-v"] ∧ r.dest = some "v" ∧
        r.nargs = some (.exactly 0) ∧ r.ignoreCase = false) ∨
      i = 2 ∧ r.kind = .positional "files" ∧ r.dest = some "files" ∧ r.prefixChars = "-" := by
  have hfirst : (Call.argument? intermixedCalls 0).map (fun r => (r.kind, r.dest, r.nargs,
      r.ignoreCase, ((Declaration.valueFilter r).value? "-v").isSome)) =
        some (.optional ["-o"] ["-o"], some "o", none, false, true) := by
    decide +kernel
  have hsecond : (Call.argument? intermixedCalls 1).map (fun r => (r.kind, r.dest, r.nargs,
      r.ignoreCase)) = some (.optional ["-v"] ["-v"], some "v", some (.exactly 0), false) := by
    decide +kernel
  have hthird : (Call.argument? intermixedCalls 2).map (fun r => (r.kind, r.dest,
      r.prefixChars)) = some (.positional "files", some "files", "-") := by
    decide +kernel
  obtain rfl | rfl | rfl | hge : i = 0 ∨ i = 1 ∨ i = 2 ∨ 3 ≤ i := by omega
  · simp_all
  · simp_all
  · simp_all
  · have hnone : (Call.arguments intermixedCalls)[i]? = none := List.getElem?_eq_none hge
    simp [Call.argument?, hnone] at h

theorem plain_intermixed : ∀ call ∈ intermixedCalls, call.Plain := by
  have hbuiltIn {a : Argument} (hnone : a.handler = none) (hraw : a.rawHandler = none) :
      a.Handlers Handler.BuiltIn := by
    simp [Argument.Handlers, hnone, hraw]
  simp only [intermixedCalls, List.forall_mem_cons]
  refine ⟨?_, ?_, ?_, List.forall_mem_nil _⟩
  · exact ⟨hbuiltIn rfl rfl, rfl, fun _ => ⟨nofun, .inl rfl⟩, fun _ => ⟨rfl, nofun, nofun⟩⟩
  · exact ⟨hbuiltIn rfl rfl, rfl, fun _ => ⟨nofun, .inl rfl⟩, fun _ => ⟨rfl, nofun, nofun⟩⟩
  · exact ⟨hbuiltIn rfl rfl, rfl, fun hoptional => absurd hoptional (by decide +kernel),
      fun _ => ⟨rfl, nofun, nofun⟩⟩

theorem distinct_intermixed : Call.Distinct intermixedCalls := by
  intro i j r s hr hs heq
  simp only [Declaration.destination] at heq
  obtain ⟨rfl, -, hdest, -⟩ | ⟨rfl, -, hdest, -⟩ | ⟨rfl, -, hdest, -⟩ := argument?_intermixed hr <;>
    obtain ⟨rfl, -, hdest', -⟩ | ⟨rfl, -, hdest', -⟩ | ⟨rfl, -, hdest', -⟩ :=
      argument?_intermixed hs <;>
    simp_all

theorem recognises_intermixed {i : Nat} {r : ResolvedArgument}
    (h : Call.argument? intermixedCalls i = some r) :
    (r.Recognises "-o" → i = 0) ∧ (r.Recognises "-v" → i = 1) ∧ ¬ r.Recognises "a" ∧
      ¬ r.Recognises "b" := by
  have hstrip : Rule.stripFirst? ["-o"] false "-v" = none ∧
      Rule.stripFirst? ["-o"] false "a" = none ∧ Rule.stripFirst? ["-o"] false "b" = none := by
    decide +kernel
  obtain ⟨rfl, hkind, -, -, hcase, -⟩ | ⟨rfl, hkind, -, hnargs, hcase⟩ | ⟨-, hkind, -⟩ :=
    argument?_intermixed h
  · simp [ResolvedArgument.Recognises, ResolvedArgument.HasFlag, ResolvedArgument.HasFused, hkind,
      hcase, Rule.isWord, hstrip]
  · simp [ResolvedArgument.Recognises, ResolvedArgument.HasFlag, ResolvedArgument.HasFused, hkind,
      hcase, hnargs, Rule.isWord]
  · simp [ResolvedArgument.Recognises, ResolvedArgument.HasFlag, ResolvedArgument.HasFused, hkind]

theorem separate_intermixed : Call.Separate intermixedCalls := by
  intro i r flags prefixes flag hr hkind hflag
  have hprefix : startsWithAny "-" "-o" ∧ startsWithAny "-" "-v" := by decide +kernel
  have hpositional : ∀ j s name, Call.argument? intermixedCalls j = some s →
      s.kind = .positional name → s.prefixChars = "-" := by
    intro j s name hs hname
    obtain ⟨-, hopt, -⟩ | ⟨-, hopt, -⟩ | ⟨-, -, -, hprefixes⟩ := argument?_intermixed hs
    · exact nomatch hname.symm.trans hopt
    · exact nomatch hname.symm.trans hopt
    · exact hprefixes
  obtain ⟨rfl, hopt, -⟩ | ⟨rfl, hopt, -⟩ | ⟨-, hname, -⟩ := argument?_intermixed hr
  · obtain ⟨rfl, rfl⟩ := ArgumentKind.optional.inj (hkind.symm.trans hopt)
    obtain rfl := List.mem_singleton.mp hflag
    refine ⟨fun j s hj hs hrec => hj ((recognises_intermixed hs).1 hrec), ?_⟩
    exact fun j s name hs hname => hpositional j s name hs hname ▸ hprefix.1
  · obtain ⟨rfl, rfl⟩ := ArgumentKind.optional.inj (hkind.symm.trans hopt)
    obtain rfl := List.mem_singleton.mp hflag
    refine ⟨fun j s hj hs hrec => hj ((recognises_intermixed hs).2.1 hrec), ?_⟩
    exact fun j s name hs hname => hpositional j s name hs hname ▸ hprefix.2
  · exact nomatch hkind.symm.trans hname

/-- The option with a value that is spelled like the flag. -/
theorem of_option_output : (Block.option 0 "-o" ["-v"]).Of intermixedCalls := by
  have hsome : (Call.argument? intermixedCalls 0).isSome := by decide +kernel
  obtain ⟨r, hr⟩ := Option.isSome_iff_exists.mp hsome
  obtain ⟨-, hkind, -, hnargs, -, haccepts⟩ | ⟨h, -⟩ | ⟨h, -⟩ := argument?_intermixed hr
  · refine Block.of_separate separate_intermixed hr hkind List.mem_cons_self ?_
      (List.forall_mem_singleton.mpr haccepts)
    rw [hnargs]
    rfl
  · exact nomatch h
  · exact nomatch h

theorem of_option_verbose : (Block.option 1 "-v" []).Of intermixedCalls := by
  have hsome : (Call.argument? intermixedCalls 1).isSome := by decide +kernel
  obtain ⟨r, hr⟩ := Option.isSome_iff_exists.mp hsome
  obtain ⟨h, -⟩ | ⟨-, hkind, -, hnargs, -⟩ | ⟨h, -⟩ := argument?_intermixed hr
  · exact nomatch h
  · refine Block.of_separate separate_intermixed hr hkind List.mem_cons_self ?_ nofun
    rw [hnargs]
    rfl
  · exact nomatch h

/-- The blocks `-v` and `-o -v` may stand anywhere between the files. -/
theorem Declares.parse_reordered_intermixed :
    ∃ p ns, intermixed = .ok p ∧
      ns = .ofList [("files", .list [.str "a", .str "b"]), ("o", .str "-v"), ("v", .bool true)] ∧
      (p.parse ["a", "-o", "-v", "-v", "b"] none).1 = .ok ns ∧
      (p.parse ["-v", "a", "b", "-o", "-v"] none).1 = .ok ns := by
  have heval : intermixed.toOption.map (fun p => (p.parse ["a", "-o", "-v", "-v", "b"] none).1) =
      some (.ok (.ofList
        [("files", .list [.str "a", .str "b"]), ("o", .str "-v"), ("v", .bool true)])) := by
    decide +kernel
  cases hintermixed : intermixed with
  | error e => exact nomatch (congrArg Except.toOption hintermixed ▸ heval)
  | ok p =>
    rw [hintermixed] at heval
    obtain ⟨⟨_, p₁⟩, houtput, h⟩ := Declaration.bind_eq_ok.mp hintermixed
    obtain ⟨⟨_, p₂⟩, hverbose, h⟩ := Declaration.bind_eq_ok.mp h
    obtain ⟨⟨_, p₃⟩, hfiles, h⟩ := Declaration.bind_eq_ok.mp h
    cases h
    have hparse := Option.some.inj heval
    have hdeclares : p.Declares intermixedCalls := by
      obtain ⟨d₁, -, -, rfl⟩ := addArgument_eq_ok.mp houtput
      obtain ⟨d₂, -, -, rfl⟩ := addArgument_eq_ok.mp hverbose
      exact ((Declares.new.addArgument houtput).addArgument hverbose).addArgument hfiles
    let o : Block := .option 0 "-o" ["-v"]
    let v : Block := .option 1 "-v" []
    have hblocks : ∀ b ∈ [.single "a", o, v, .single "b"], b.Of intermixedCalls := by
      simp only [List.forall_mem_cons]
      exact ⟨fun i r hr => (recognises_intermixed hr).2.2.1, of_option_output, of_option_verbose,
        fun i r hr => (recognises_intermixed hr).2.2.2, nofun⟩
    have hfirst : Block.Swap [.single "a", o, v, .single "b"]
        [.single "a", v, o, .single "b"] := .mk [.single "a"] [.single "b"] (by decide)
    have hsecond : Block.Swap [.single "a", v, o, .single "b"]
        [v, .single "a", o, .single "b"] := .mk [] [o, .single "b"] (by decide)
    have hthird : Block.Swap [v, .single "a", o, .single "b"]
        [v, .single "a", .single "b", o] := .mk [v, .single "a"] [] (by decide)
    have hreordered := ((Relation.ReflTransGen.single hfirst).tail hsecond).tail hthird
    refine ⟨_, _, rfl, rfl, hparse, ?_⟩
    have hsame := hdeclares.parse_reordered plain_intermixed distinct_intermixed hblocks
      (by decide +kernel) hreordered none
    exact (hsame _).mp hparse

end ArgumentParser

end TokenGrammar
