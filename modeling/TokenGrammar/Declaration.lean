import TokenGrammar.Flags
import TokenGrammar.Regex
import TokenGrammar.Rule
import TokenGrammar.Validator

/-!
# Declarations

An argument is declared in two steps. It is resolved against the settings: positional or optional,
its destination, its spellings, and whether it is required. Then its action adjusts it, and it is
built into a rule and validators:

* an optional argument is a choice between a flag by itself and a prefix of a token that does not
  end there, followed by the values;
* a positional argument is a token that does not start with a prefix character, so many times at
  most, and its value.

The validators are in a fixed order: count of values, default, requirement, removal.
-/

namespace TokenGrammar

/-- The compiled form of an argument. -/
structure Declaration where
  rule : Rule
  validators : List Validator

/-- How an argument is recognised. -/
inductive ArgumentKind where
  | optional (flags prefixes : List String)
  | positional (name : String)
deriving DecidableEq, Repr

/-- An argument resolved against the settings. -/
structure ResolvedArgument where
  kind : ArgumentKind
  /-- The destination; none for an anonymous one. -/
  dest : Option String
  nargs : Option Nargs
  constant : Option Value
  default : Option Value
  choices : List String
  valueType : Option ValueType
  regexp : Option Regex
  required : Bool
  append : Bool
  ignoreCase : Bool
  prefixChars : String
  handler : Option Handler
  rawDest : List String
  rawFormat : Option RawFormat
  rawHandler : Option Handler

namespace Declaration

/-- Whether a text may name a destination. -/
def isDestName (dest : String) : Bool :=
  dest.toList.all fun c => c = '_' || Text.isAlphanumeric c

/-- A named destination has alphanumeric characters and underscores only. -/
def checkDest : Dest → Except GrammarError Unit
  | .named dest => if isDestName dest then .ok () else .error (.invalidDest dest)
  | _ => .ok ()

/-- Whether the argument is an optional one: its first name starts with a prefix character, or it
has flags or prefixes of its own. -/
def isOptional (a : Argument) (prefixChars : String) : Bool :=
  a.names.head?.any (startsWithAny prefixChars) || !a.flags.isEmpty || !a.prefixes.isEmpty

/-- Compiles the pattern of an argument. -/
def compilePattern : Option String → Except GrammarError (Option Regex)
  | none => .ok none
  | some pattern =>
    match Regex.compile pattern with
    | .ok regexp => .ok (some regexp)
    | .error reason => .error (.invalidRegexp pattern reason)

/-- The parts of a resolved argument that depend on its kind. -/
structure Kinded where
  kind : ArgumentKind
  dest : Option String
  required : Bool
  default : Option Value

/-- Resolves an optional argument. -/
def resolveOptional (a : Argument) (prefixChars : String) : Except GrammarError Kinded := do
  let spelled ← Flags.ofArgument a prefixChars
  return {
    kind := .optional spelled.flags spelled.prefixes
    dest := spelled.dest
    required := a.required.getD false
    default := a.default }

/-- Resolves a positional argument. It is required unless its count may be zero, and any number of
values defaults to none. -/
def resolvePositional (a : Argument) : Except GrammarError Kinded :=
  match a.names.head? with
  | none => .error .unableToInferDest
  | some name =>
    .ok {
      kind := .positional name
      dest := match a.dest with
        | .infer => some name
        | .named dest => some dest
        | .anonymous => none
      required := a.nargs ≠ some .optional && a.nargs ≠ some .zeroOrMore
      default := match a.nargs with
        | some .optional => none
        | some .zeroOrMore => some (.list [])
        | _ => a.default }

/-- Resolves an argument against the settings. -/
def resolve (a : Argument) (settings : Settings) : Except GrammarError ResolvedArgument := do
  let prefixChars := a.prefixChars.getD settings.prefixChars
  let regexp ← compilePattern a.regexp
  let kinded ←
    if isOptional a prefixChars then resolveOptional a prefixChars else resolvePositional a
  return {
    kind := kinded.kind
    dest := kinded.dest
    nargs := a.nargs
    constant := a.constant
    default := kinded.default
    choices := a.choices
    valueType := a.valueType
    regexp
    required := kinded.required
    append := a.append
    ignoreCase := a.ignoreCase.getD settings.ignoreCase
    prefixChars
    handler := a.handler
    rawDest := a.rawDest.getD []
    rawFormat := a.rawFormat
    rawHandler := a.rawHandler }

/-! ## Building rules

The rules of one argument are numbered from `base` on, each part of it by its own number. -/

/-- How many numbers one call of `build` uses. -/
def buildWidth : Nat := 8

/-- The name of an anonymous destination. No other destination has such a name. -/
def anonymousDest (id : Nat) : String :=
  .ofList ("@anonymous_".toList ++ Decimal.digitChars id)

/-- Which values the argument accepts. -/
def valueFilter (r : ResolvedArgument) : ValueFilter where
  constant := r.constant
  choices := r.choices
  valueType := r.valueType
  pattern := r.regexp.map (·.matchesAtStart)
  prefixChars := r.prefixChars

/-- The rule that takes the values: it adds to the destination or overwrites it. -/
def setter (id : Nat) (dest : String) (nargs : Option Nargs) (filter : ValueFilter)
    (accumulate : Bool) (handler : Option Handler) : Rule :=
  if accumulate then .appendToAttribute id dest nargs filter handler
  else .setAttribute id dest nargs filter handler

/-- The ways in which an optional argument is recognised. Without values it has no fused ones. -/
def recognisers (base : Nat) (r : ResolvedArgument) (flags prefixes : List String) : List Rule :=
  (if flags.isEmpty then []
    else [.all (base + 1) [.oneOf flags r.ignoreCase, .skip 1]]) ++
  (if r.nargs = some (.exactly 0) || prefixes.isEmpty then []
    else [.all (base + 2) [.removePrefix prefixes r.ignoreCase, .not (base + 3) .isEmpty]])

/-- The rule of an optional argument. -/
def optionalRule (base : Nat) (r : ResolvedArgument) (dest : String)
    (flags prefixes : List String) : Rule :=
  .all (base + 6)
    [.any (base + 4) (recognisers base r flags prefixes),
      setter (base + 5) dest r.nargs (valueFilter r) r.append r.handler]

/-- How often a positional argument may match. -/
def positionalLimit (append : Bool) : Option Nargs → Nargs
  | none => if append then .zeroOrMore else .exactly 1
  | some (.exactly 0) => .zeroOrMore
  | some nargs => nargs

/-- The rule of a positional argument. Unless it appends, each match takes one value, which is
added to the others where a count is declared. -/
def positionalRule (base : Nat) (r : ResolvedArgument) (dest : String) : Rule :=
  .all (base + 6)
    [.not (base + 1) (.removePrefix (r.prefixChars.toList.map fun c => .ofList [c]) false),
      .limiter (base + 2) (positionalLimit r.append r.nargs),
      setter (base + 5) dest (if r.append then r.nargs else none) (valueFilter r)
        (r.append || r.nargs.isSome) r.handler]

/-- The check of the count of values: of positional arguments that do not append. -/
def countValidators (r : ResolvedArgument) (dest : String) : List Validator :=
  match r.kind, r.append, r.nargs with
  | .positional name, false, some nargs => [.count dest nargs.bounds (some name)]
  | _, _, _ => []

/-- What a message about a missing attribute mentions. -/
def context (r : ResolvedArgument) (dest : String) : String :=
  match r.kind with
  | .positional name => name
  | .optional flags prefixes => (flags.head? <|> prefixes.head?).getD dest

/-- Records the consumed tokens, where the argument has attributes for them. -/
def withCapture (id : Nat) (r : ResolvedArgument) (rule : Rule) : Rule :=
  if r.rawDest.isEmpty then rule
  else .capture id r.rawDest rule r.rawFormat (r.rawHandler.getD .appendOrExtend)

/-- The rule and the validators of a resolved argument. -/
def build (base : Nat) (r : ResolvedArgument) : Declaration :=
  let dest := r.dest.getD (anonymousDest base)
  let rule := match r.kind with
    | .optional flags prefixes => optionalRule base r dest flags prefixes
    | .positional _ => positionalRule base r dest
  { rule := withCapture (base + 7) r rule
    validators :=
      countValidators r dest ++
      (r.default.map (Validator.default dest)).toList ++
      (if r.required then [.require dest (some (context r dest))] else []) ++
      (if r.dest.isNone then [.remove dest] else []) }

/-! ## Actions -/

/-- How many numbers one declaration uses: two rules at most, and a choice between them. -/
def width : Nat := 2 * buildWidth + 1

/-- The argument as a flag that stores `value` and is spelled with a suffix. -/
def flagVariant (r : ResolvedArgument) (value : Bool) (suffix : String) : ResolvedArgument :=
  let flags := match r.kind with
    | .optional flags _ => flags
    | .positional _ => []
  { r with
    nargs := some (.exactly 0)
    constant := some (.bool value)
    kind := .optional (flags.map (· ++ suffix)) [] }

/-- Two flags: with one suffix they store true, with the other false. -/
def flagPair (base : Nat) (r : ResolvedArgument) (trueSuffix falseSuffix : String) :
    Declaration :=
  let on := build base (flagVariant r true trueSuffix)
  let off := build (base + buildWidth) (flagVariant r false falseSuffix)
  { rule := .any (base + 2 * buildWidth) [on.rule, off.rule]
    validators := on.validators ++ off.validators }

/-- The kind of an argument whose values follow its flags behind a colon. -/
def colonKind : ArgumentKind → ArgumentKind
  | .optional flags _ => .optional [] (flags.map (· ++ ":"))
  | kind => kind

/-- The argument without values, which stores its constant. -/
def withConstant (r : ResolvedArgument) : Except GrammarError ResolvedArgument :=
  if r.constant.isNone then .error .constRequired
  else .ok { r with nargs := some (.exactly 0) }

/-- The argument as a flag that stores `value`, and its opposite where it is missing. -/
def withFlag (r : ResolvedArgument) (value : Bool) : ResolvedArgument :=
  { r with
    nargs := some (.exactly 0)
    constant := some (.bool value)
    default := some (.bool !value) }

/-- Adjusts an argument to its action and builds it. -/
def applyAction (base : Nat) (r : ResolvedArgument) (trueSuffix falseSuffix : String) :
    Action → Except GrammarError Declaration
  | .store => .ok (build base r)
  | .storeConst => (withConstant r).map (build base)
  | .storeTrue => .ok (build base (withFlag r true))
  | .storeFalse => .ok (build base (withFlag r false))
  | .append => .ok (build base { r with append := true })
  | .appendConst => (withConstant r).map fun r => build base { r with append := true }
  | .msvcFlag => .ok (flagPair base r trueSuffix falseSuffix)
  | .msvcFlagWithValue => .ok (build base { r with kind := colonKind r.kind })

/-- Compiles an argument, with its rules numbered from `base` on. -/
def ofArgument (base : Nat) (a : Argument) (settings : Settings) (defaults : ArgumentDefaults) :
    Except GrammarError Declaration := do
  let a := a.inherit defaults
  checkDest a.dest
  let resolved ← resolve a settings
  applyAction base resolved (a.msvcTrueSuffix.getD "") (a.msvcFalseSuffix.getD "-")
    (a.action.getD .store)

end Declaration

end TokenGrammar
