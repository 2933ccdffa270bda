import TokenGrammar.Rule
import TokenGrammar.Validator

/-!
# Parsing tokens

A token parser tries its rules in order at each position. A match must consume a token: a match
that consumes nothing is taken back and counts as none, so each round makes progress. Where no
rule matches, a strict parse gives up on all the tokens that are left, and a lenient parse skips
one token and goes on.
-/

namespace TokenGrammar

/-- What happens to tokens that no rule matches, and to failed validators. -/
inductive Mode where
  /-- Unmatched tokens and failed validators are errors. -/
  | strict
  /-- Unmatched tokens are skipped and recorded; failed validators are ignored. -/
  | lenient (unknownDest : List String)
deriving DecidableEq, Repr

/-- A grammar that is ready to run. -/
structure TokenParser where
  rules : List Rule
  validators : List Validator

namespace Mode

/-- How many of the tokens that are left are given up where no rule matches. -/
def skipCount : Mode → Nat → Nat
  | .strict, left => left
  | .lenient _, _ => 1

/-- The attributes that record skipped tokens. -/
def unknownDest : Mode → List String
  | .strict => []
  | .lenient dests => dests

/-- Whether an error of a validator ends the parse. -/
def aborts : Mode → Error → Bool
  | _, .grammar _ => true
  | .strict, _ => true
  | .lenient _, _ => false

end Mode

namespace TokenParser

/-- One match of a rule that consumes at least one token. -/
def advance (p : TokenParser) : Step Bool := do
  let before := (← get).tokens.size
  let handle ← State.save .driver
  let matched ← Rule.runAny .choice p.rules
  if matched && (← get).tokens.size < before then
    State.dismiss handle
    return true
  else
    State.restore handle
    return false

/-- Gives up on tokens, and records them. Where fewer tokens are left, none are given up, and that
is recorded too. -/
def skip (mode : Mode) : Step (List String) := do
  let st ← get
  let (skipped, st) := (st.next? (mode.skipCount st.tokens.size)).getD ([], st)
  MonadState.set (mode.unknownDest.foldl (fun st dest => st.extend dest (.ofTexts skipped)) st)
  return skipped

/-- Consumes all tokens, in at most `rounds` rounds, and gives the tokens that no rule matched. -/
def consumeAll (p : TokenParser) (mode : Mode) : (rounds : Nat) → Step (List String)
  | 0 => return []
  | rounds + 1 => do
    if (← get).tokens.isEmpty then
      return []
    else if ← p.advance then
      p.consumeAll mode rounds
    else
      let skipped ← skip mode
      return skipped ++ (← p.consumeAll mode rounds)

/-- Runs the validators in order. -/
def validate (mode : Mode) : List Validator → Namespace → Except Error Namespace
  | [], ns => .ok ns
  | v :: vs, ns =>
    match v.apply ns with
    | .ok ns => validate mode vs ns
    | .error e => if mode.aborts e then .error e else validate mode vs ns

/-- Parses tokens into attributes, and gives the unmatched tokens with them. Each round consumes a
token, so there are at most as many rounds as tokens. -/
def parse (p : TokenParser) (mode : Mode) (tokens : List String) (attributes : Option Namespace) :
    Except Error (Namespace × List String) :=
  match p.consumeAll mode tokens.length (.start tokens attributes) with
  | .error e _ => .error e
  | .ok unparsed st =>
    if mode = .strict ∧ unparsed ≠ [] then .error (.unparsedTokens unparsed)
    else do
      let ns ← st.finish
      return (← validate mode p.validators ns, unparsed)

/-- Parses all tokens; what is left is an error. -/
def parseStrict (p : TokenParser) (tokens : List String) (attributes : Option Namespace) :
    Except Error Namespace :=
  (p.parse .strict tokens attributes).map (·.1)

/-- Parses what the rules match. The other tokens are given back, and are added to every attribute
in `unknownDest`. -/
def parseLenient (p : TokenParser) (tokens : List String) (attributes : Option Namespace)
    (unknownDest : List String) : Except Error (Namespace × List String) :=
  p.parse (.lenient unknownDest) tokens attributes

end TokenParser

end TokenGrammar
