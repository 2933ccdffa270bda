import TokenGrammar.Decimal.Integer

/-!
# Owners

Savepoints and counters belong to an owner: the loop over the tokens, its choice among the rules,
or a rule of a grammar. The first two are apart from every rule, so that a grammar may number its
rules as it likes.
-/

namespace TokenGrammar

/-- Who opens a savepoint or keeps a counter. -/
inductive Owner where
  /-- The loop over the tokens. -/
  | driver
  /-- The choice of that loop among the rules of a grammar. -/
  | choice
  /-- The rule with a number. -/
  | rule (id : Nat)
deriving DecidableEq, Repr

namespace Owner

/-- The owner as it stands in messages. -/
def text : Owner → List Char
  | .driver => "driver".toList
  | .choice => "choice".toList
  | .rule id => Decimal.digitChars id

end Owner

end TokenGrammar
