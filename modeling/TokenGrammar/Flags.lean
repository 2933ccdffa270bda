import TokenGrammar.Argument
import TokenGrammar.Text.Alphanumeric

/-!
# Flags

The spellings that select an optional argument. Names longer than two characters are long flags
(`--out`, `/GR`), which take fused values behind `=` only; short ones (`-I`) take them directly.
Where there are several prefix characters, every flag is respelled with each of them.

* `Flags.ofArgument`: the flags, the prefixes and the destination of an optional argument;
* `Flags.inferDest`: `--foo-bar` is stored in `foo_bar`;
* `Flags.respell`: the flags with every prefix character.
-/

namespace TokenGrammar

/-- The spellings of an optional argument. -/
structure Flags where
  /-- Tokens that select the argument. -/
  flags : List String
  /-- Prefixes of tokens that select the argument with a value behind them. -/
  prefixes : List String
  /-- The destination; none for an anonymous one. -/
  dest : Option String
deriving DecidableEq, Repr

namespace Flags

/-- The flag without the prefix characters in front. -/
def stem (prefixChars : String) (flag : String) : List Char :=
  flag.toList.dropWhile (· ∈ prefixChars.toList)

/-- The destination that a flag stands for: what follows the prefix characters, with an underscore
for everything that is not alphanumeric. -/
def inferDest (prefixChars : String) (flag : Option String) : Except GrammarError String :=
  match flag.filter (· ≠ "") with
  | none => .error .unableToInferDest
  | some flag =>
    match stem prefixChars flag with
    | [] => .error (.emptyFlag flag)
    | cs => .ok (.ofList (cs.map fun c => if Text.isAlphanumeric c then c else '_'))

/-- Whether a name is a long flag. -/
def isLong (name : String) : Bool := 2 < name.length

/-- Whether the flag starts with two prefix characters. -/
def isDouble (prefixChars : String) (flag : String) : Bool :=
  (flag.toList.drop 1).head?.any (· ∈ prefixChars.toList)

/-- Every stem with a prefix character in front, `width` times. -/
def spellings (width : Nat) (c : Char) (stems : List String) : List String :=
  stems.map fun stem => .ofList (List.replicate width c ++ stem.toList)

/-- What follows the first `n` characters of a flag. -/
def behind (n : Nat) (flag : String) : String := .ofList (flag.toList.drop n)

/-- Long flags with every prefix character: `--long` and `//long` for `--long`, and `-flag` and
`/flag` for `-flag`. -/
def respellLong (prefixChars : String) (flags : List String) : List String :=
  let double := ((flags.filter (isDouble prefixChars)).map (behind 2)).eraseDups
  let single := ((flags.filter (!isDouble prefixChars ·)).map (behind 1)).eraseDups
  prefixChars.toList.flatMap fun c =>
    spellings 1 c single ++ spellings 2 c double

/-- Short flags with every prefix character: `-a` and `/a` for `-a`. -/
def respellShort (prefixChars : String) (flags : List String) : List String :=
  let stems := (flags.map (behind 1)).eraseDups
  prefixChars.toList.flatMap fun c => spellings 1 c stems

/-- The flags with every prefix character; with at most one there is nothing to respell. -/
def respell (prefixChars : String) (long short : List String) : List String × List String :=
  if 1 < prefixChars.length then (respellLong prefixChars long, respellShort prefixChars short)
  else (long, short)

/-- The prefixes that take a fused value. -/
def fusedPrefixes (suffixValue : Option Bool) (long short own : List String) : List String :=
  match suffixValue with
  | some false => []
  | some true => long ++ short ++ own
  | none => long.map (· ++ "=") ++ short ++ own

/-- The spellings of an optional argument. -/
def ofArgument (a : Argument) (prefixChars : String) : Except GrammarError Flags := do
  match a.names.find? (!startsWithAny prefixChars ·) with
  | some name => throw (.invalidFlag name prefixChars)
  | none =>
    let long := a.names.filter isLong
    let short := a.names.filter (!isLong ·)
    let dest ← match a.dest with
      | .named dest => pure (some dest)
      | .anonymous => pure none
      | .infer =>
        some <$> inferDest prefixChars
          (long.head? <|> short.head? <|> a.flags.head? <|> a.prefixes.head?)
    let (long, short) := respell prefixChars long short
    return {
      flags := long ++ short ++ a.flags
      prefixes := fusedPrefixes a.suffixValue long short a.prefixes
      dest }

end Flags

end TokenGrammar
