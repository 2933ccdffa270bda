import TokenGrammar.Text.Printable

/-!
# Escaped texts

A text as a reader can tell it from every other one: in double quotes, with the double quote, the
backslash and everything that is not visible by itself escaped.
-/

namespace TokenGrammar.Text.Escaped

/-- One character between double quotes. Marks that attach to the character before them and
characters that do not print are written by their code point. -/
def escape (c : Char) : List Char :=
  if c = '\x00' then ['\\', '0']
  else if c = '\t' then ['\\', 't']
  else if c = '\r' then ['\\', 'r']
  else if c = '\n' then ['\\', 'n']
  else if c = '\\' then ['\\', '\\']
  else if c = '\x22' then ['\\', '\x22']
  else if graphemeExtend.contains c || !isPrintable c then
    '\\' :: 'u' :: '\x7b' :: Nat.toDigits 16 c.toNat ++ ['\x7d']
  else [c]

/-- The text in double quotes. -/
def encode (cs : List Char) : List Char :=
  '\x22' :: cs.flatMap escape ++ ['\x22']

end TokenGrammar.Text.Escaped
