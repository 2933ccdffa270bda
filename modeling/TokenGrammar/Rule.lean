import TokenGrammar.Collector
import TokenGrammar.Handler
import TokenGrammar.Text.LowerCase

/-!
# Rules

The matchers that a grammar is built from. A rule looks at the front of the tokens and either
matches, does not match, or fails; `Rule.run` is its step.

* leaves: `skip`, `check`, `isIn`, `isEmpty`, `replace`, `removePrefix`, `limit`;
* combinators: `not`, `all` (a sequence), `any` (an ordered choice);
* attributes: `collect` for values, `capture` for the tokens that a rule consumed, as they were
  spelled;
* `custom`: any other step.
-/

namespace TokenGrammar

/-- A matcher over the state of a parse. Rules that need a savepoint or keep a value have a
number. -/
inductive Rule where
  /-- Consumes `n` tokens. -/
  | skip (n : Nat)
  /-- Matches if the next token satisfies the predicate. -/
  | check (predicate : String → Bool)
  /-- Matches if the next token is one of the words; `fold` compares in lower case. -/
  | isIn (words : List String) (fold : Bool)
  /-- Matches if the next token is the empty text. -/
  | isEmpty
  /-- Matches if the rule does not, and changes nothing. -/
  | not (id : Nat) (rule : Rule)
  /-- Replaces the next token, which is not consumed; the function refuses by giving nothing. -/
  | replace (f : String → Option String)
  /-- Strips the first prefix that the next token has; `fold` ignores the case of ASCII letters. -/
  | removePrefix (prefixes : List String) (fold : Bool)
  /-- All rules in order. -/
  | all (id : Nat) (rules : List Rule)
  /-- The first rule that matches. -/
  | any (id : Nat) (rules : List Rule)
  /-- Matches at most so many times in one parse. -/
  | limit (id : Nat) (most : Option Nat)
  /-- Takes values and writes them to their destination. -/
  | collect (collector : Collector) (handler : Handler)
  /-- Runs the rule and records the tokens that it consumed. -/
  | capture (id : Nat) (dests : List String) (rule : Rule) (format : Option RawFormat)
      (handler : Handler)
  /-- Any step. -/
  | custom (step : Step Bool)

namespace Rule

/-- A choice among words; words to be compared in lower case are kept in lower case. -/
def oneOf (words : List String) (fold : Bool) : Rule :=
  .isIn (if fold then words.map Text.toLowerCase else words) fold

/-- A limit at the upper bound of a count. The lower bound is checked at the end of a parse. -/
def limiter (id : Nat) (nargs : Nargs) : Rule := .limit id nargs.bounds.most

/-- Takes values and overwrites the destination: with the value if the count is a scalar one, and
with the list of values otherwise. -/
def setAttribute (id : Nat) (dest : String) (nargs : Option Nargs) (filter : ValueFilter)
    (handler : Option Handler) : Rule :=
  .collect ⟨id, dest, Nargs.boundsOf nargs, filter⟩
    (handler.getD (if Nargs.isScalar nargs then .setFirst else .set))

/-- Takes values and adds them to the destination: one by one if the count is a scalar one, and as
one list otherwise. -/
def appendToAttribute (id : Nat) (dest : String) (nargs : Option Nargs) (filter : ValueFilter)
    (handler : Option Handler) : Rule :=
  .collect ⟨id, dest, Nargs.boundsOf nargs, filter⟩
    (handler.getD (if Nargs.isScalar nargs then .extend else .append))

/-- A rule around a function, as it is described to a developer; the function itself cannot be
shown. -/
def describe? : Rule → Option String
  | .check _ => some "Check \x7b .. \x7d"
  | .replace _ => some "Transform \x7b .. \x7d"
  | _ => none

/-- The rest of a text behind a prefix, comparing characters by `eq`. -/
def stripPrefix? (eq : Char → Char → Bool) : (front text : List Char) → Option (List Char)
  | [], text => some text
  | p :: front, c :: text => if eq p c then stripPrefix? eq front text else none
  | _ :: _, [] => none

/-- Whether two characters are equal, or two spellings of one ASCII letter. -/
def eqIgnoringCase (a b : Char) : Bool := a.toLower = b.toLower

/-- The rest of the token behind the first prefix that it has. -/
def stripFirst? (prefixes : List String) (fold : Bool) (token : String) : Option String :=
  let eq := if fold then eqIgnoringCase else (· == ·)
  prefixes.findSome? fun p => (stripPrefix? eq p.toList token.toList).map .ofList

/-- Whether the token is one of the words. -/
def isWord (words : List String) (fold : Bool) (token : String) : Bool :=
  (if fold then Text.toLowerCase token else token) ∈ words

/-- Looks at the next token, of which there may be none. -/
def onNext (p : String → Bool) : Step Bool := do
  let next? ← MonadExcept.ofExcept ((← get).token? 0)
  return next?.any p

/-- Replaces the next token, unless there is none or the function refuses it. -/
def replaceNext (f : String → Option String) : Step Bool := do
  let st ← get
  match (← MonadExcept.ofExcept (st.token? 0)).bind f with
  | some token =>
    MonadState.set (← MonadExcept.ofExcept (st.setToken 0 token))
    return true
  | none => return false

/-- The next token is read without overflow. -/
theorem onNext_eq (p : String → Bool) :
    onNext p = do return (← get).tokens.head?.any p := by
  simp only [onNext, State.token?_zero]
  rfl

/-- The next token is replaced without overflow. -/
theorem replaceNext_eq (f : String → Option String) : replaceNext f = do
    match (← get).tokens.head?.bind f with
    | some token =>
      modify fun st => st.respell st.tokens.front token
      return true
    | none => return false := by
  simp only [replaceNext, State.token?_zero, State.setToken_zero]
  funext st
  show (match st.tokens.head?.bind f with
    | some token => _
    | none => _ : Step Bool) st = (match st.tokens.head?.bind f with
    | some token => _
    | none => _ : Step Bool) st
  cases st.tokens.head?.bind f <;> rfl

/-- The key under which a limit keeps its count. -/
def counterKey : String := "counter"

/-- How many times a limit has matched so far. -/
def matchCount (id : Nat) (st : State) : Int64 :=
  ((st.fetch? (.rule id) counterKey).bind Value.asInt?).getD 0

/-- Matches while the count is below the bound, which is read as a word with a sign. -/
def limitStep (id : Nat) (most : Option Nat) : Step Bool := do
  let count := matchCount id (← get)
  if most.any (Int64.ofNat · ≤ count) then
    return false
  else
    modify (·.store (.rule id) counterKey (.int (count + 1)))
    return true

/-- Takes values and writes them. -/
def collectStep (collector : Collector) (handler : Handler) : Step Bool := do
  match ← collector.collect with
  | none => return false
  | some values =>
    modify (handler.apply · collector.dest (.list values))
    return true

/-- Runs a step and takes back whatever it did. -/
def notStep (id : Nat) (step : Step Bool) : Step Bool := do
  let handle ← State.save (.rule id)
  let matched ← step
  State.restore handle
  return !matched

/-- Runs a step and, if it matches, writes the tokens that it consumed to every destination. A
value that is not truthy is not recorded. -/
def captureStep (id : Nat) (dests : List String) (format : Option RawFormat) (handler : Handler)
    (step : Step Bool) : Step Bool := do
  let handle ← State.save (.rule id)
  if ← step then
    let consumed := (← get).consumedTokens handle
    State.dismiss handle
    let captured := RawFormat.record format consumed
    if captured.truthy then
      modify fun st => dests.foldl (fun st dest => handler.apply st dest captured) st
    return true
  else
    State.restore handle
    return false

mutual

/-- The step of a rule. -/
def run : Rule → Step Bool
  | .skip n => do
    match (← get).next? n with
    | some (_, st) =>
      MonadState.set st
      return true
    | none => return false
  | .check predicate => onNext predicate
  | .isIn words fold => onNext (isWord words fold)
  | .isEmpty => onNext (· = "")
  | .not id rule => notStep id rule.run
  | .replace f => replaceNext f
  | .removePrefix prefixes fold => replaceNext (stripFirst? prefixes fold)
  | .all id rules => State.attempt (.rule id) (runAll rules)
  | .any id rules => runAny (.rule id) rules
  | .limit id most => limitStep id most
  | .collect collector handler => collectStep collector handler
  | .capture id dests rule format handler => captureStep id dests format handler rule.run
  | .custom step => step

/-- Runs rules one after the other, until one does not match. -/
def runAll : List Rule → Step Bool
  | [] => return true
  | rule :: rules => do
    if ← rule.run then runAll rules else return false

/-- Runs rules under a savepoint each, until one matches. -/
def runAny (owner : Owner) : List Rule → Step Bool
  | [] => return false
  | rule :: rules => do
    if ← State.attempt owner rule.run then return true else runAny owner rules

end

end Rule

end TokenGrammar
