import TokenGrammar.Yaml.Layout
import TokenGrammar.Yaml.Node
import TokenGrammar.Yaml.PlainScalar

/-!
# Aliases

The document of a YAML text. Each alias is replaced by the node that it stands for. At most 128
sequences and mappings may be nested, and at most a hundred times as many aliases replaced as the
text has nodes, so a node within itself is refused.

* `Document.ofYaml?`: the document of a text.
-/

namespace TokenGrammar.Yaml

namespace Node

mutual

/-- The nodes with an anchor, with their numbers, in the order in which they begin. -/
def anchored : Node → List (Nat × Node)
  | .scalar anchor tag style text => (anchor.map (·, .scalar anchor tag style text)).toList
  | .sequence anchor tag items =>
    (anchor.map (·, .sequence anchor tag items)).toList ++ anchoredItems items
  | .mapping anchor tag entries =>
    (anchor.map (·, .mapping anchor tag entries)).toList ++ anchoredEntries entries
  | .alias _ => []

/-- The nodes with an anchor among the items of a sequence. -/
def anchoredItems : List Node → List (Nat × Node)
  | [] => []
  | n :: ns => n.anchored ++ anchoredItems ns

/-- The nodes with an anchor among the entries of a mapping. -/
def anchoredEntries : List (Node × Node) → List (Nat × Node)
  | [] => []
  | (k, v) :: es => k.anchored ++ v.anchored ++ anchoredEntries es

end

mutual

/-- The number of nodes; a sequence and a mapping count twice, as they begin and end. -/
def weight : Node → Nat
  | .scalar .. | .alias _ => 1
  | .sequence _ _ items => 2 + itemsWeight items
  | .mapping _ _ entries => 2 + entriesWeight entries

/-- The number of nodes among the items of a sequence. -/
def itemsWeight : List Node → Nat
  | [] => 0
  | n :: ns => n.weight + itemsWeight ns

/-- The number of nodes among the entries of a mapping. -/
def entriesWeight : List (Node × Node) → Nat
  | [] => 0
  | (k, v) :: es => k.weight + v.weight + entriesWeight es

end

/-- The node that an alias stands for; the number of aliases still allowed is the state. -/
def resolve (table : List (Nat × Node)) : Node → StateT Nat Option Node
  | .alias number => do
    match ← get, table.lookup number with
    | budget + 1, some node =>
      set budget
      return node
    | _, _ => failure
  | node => return node

/-- The document of a node, with at most `depth` sequences and mappings in each other. -/
def expand (table : List (Nat × Node)) : (depth : Nat) → Node → StateT Nat Option Document
  | 0, node => do
    match ← resolve table node with
    | .scalar _ tag style text => return .scalar (scalarOf tag style text)
    | _ => failure
  | depth + 1, node => do
    match ← resolve table node with
    | .scalar _ tag style text => return .scalar (scalarOf tag style text)
    | .sequence _ tag items =>
      return .sequence (← items.mapM (expand table depth)) false (localTag? tag).isNone
    | .mapping _ _ entries =>
      return .mapping
        (← entries.mapM fun (key, value) => do
          return (← expand table depth key, ← expand table depth value))
        none
    | .alias _ => failure

/-- How many sequences and mappings may be nested. -/
def maxDepth : Nat := 128

/-- The document of a node. Of two anchors with one number the last one counts. -/
def toDocument? (node : Node) : Option Document :=
  ((expand node.anchored.reverse maxDepth node).run (100 * node.weight)).map (·.1)

end Node

end TokenGrammar.Yaml

namespace TokenGrammar.Document

open Yaml (tokens? Node)

/-- The document of a YAML text; an empty text is an empty scalar. -/
def ofYaml? (text : String) : Option Document := do
  match ← Node.ofTokens? (← tokens? text) with
  | some node => node.toDocument?
  | none => Node.empty.toDocument?

end TokenGrammar.Document
