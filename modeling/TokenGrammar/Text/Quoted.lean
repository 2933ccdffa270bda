/-!
# Quoted texts

Texts in messages stand in single quotes, or in double quotes if they hold a single quote and no
double quote. The quote, a backslash, a tabulator and the two line ends are escaped with a
backslash.
-/

namespace TokenGrammar.Text.Quoted

/-- The quote around a text. -/
def quoteOf (cs : List Char) : Char :=
  if '\x27' ∈ cs ∧ '\x22' ∉ cs then '\x22' else '\x27'

/-- One character between quotes. -/
def escape (quote c : Char) : List Char :=
  if c = '\\' then ['\\', '\\']
  else if c = '\n' then ['\\', 'n']
  else if c = '\r' then ['\\', 'r']
  else if c = '\t' then ['\\', 't']
  else if c = quote then ['\\', c]
  else [c]

/-- The text in quotes. -/
def encode (cs : List Char) : List Char :=
  let quote := quoteOf cs
  quote :: cs.flatMap (escape quote) ++ [quote]

end TokenGrammar.Text.Quoted
