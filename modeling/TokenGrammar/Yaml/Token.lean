/-!
# Tokens

The words of a YAML text. Where a block or a key begins and ends is spelled out, so that
indentation does not count any more.
-/

namespace TokenGrammar.Yaml

/-- How a scalar is written. -/
inductive Style where
  | plain
  | quoted
  /-- A block that keeps its lines. -/
  | literal
  /-- A block whose lines are joined. -/
  | folded
deriving DecidableEq, Repr

/-- A token. -/
inductive Token where
  | version (major minor : Nat)
  /-- A handle for tags and what it stands for. -/
  | handle (name stem : String)
  | documentStart
  | documentEnd
  | blockSequence
  | blockMapping
  | blockEnd
  | openSequence
  | closeSequence
  | openMapping
  | closeMapping
  /-- A hyphen in front of an item. -/
  | item
  | comma
  | key
  | value
  | alias (name : String)
  | anchor (name : String)
  /-- A tag with its handle; a tag in full has none. -/
  | tag (handle : String) (suffix : String)
  | scalar (style : Style) (text : String)
deriving DecidableEq, Repr

end TokenGrammar.Yaml
