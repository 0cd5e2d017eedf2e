import TableReach.Document.Fields
import TableReach.Document.Yaml.Node

/-!
# Reading YAML

A document is what its node stands for, with each named node in the places where it is
repeated.  A node that is repeated inside of itself has no end; it is followed as deep as
any value is looked into.
-/

namespace TableReach
namespace Document
namespace Yaml
namespace Node

mutual

/-- The nodes that have numbers, in the order in which they start. -/
def numbered : Node → List (Nat × Node)
  | .scalar _ _ _ => []
  | .list items => numberedItems items
  | .table entries => numberedEntries entries
  | .alias _ => []
  | .named number node => (number, node) :: numbered node

/-- The nodes in the items of a list that have numbers. -/
def numberedItems : List Node → List (Nat × Node)
  | [] => []
  | item :: others => numbered item ++ numberedItems others

/-- The nodes in the entries of a table that have numbers. -/
def numberedEntries : List (Node × Node) → List (Nat × Node)
  | [] => []
  | (key, value) :: others => numbered key ++ numbered value ++ numberedEntries others

end

/-- A table, if all its keys are texts. -/
def tableOf (entries : List (Document × Document)) : Document :=
  let keyed := entries.mapM fun entry => (text entry.1).map fun key => (key, entry.2)
  (keyed.map Document.table).getD .other

mutual

/-- The document of a node, given those of the nodes with numbers. -/
def toDocument (known : Nat → Document) : Node → Document
  | .scalar none true text => .plain text
  | .scalar none false text => .string text
  | .scalar (some tag) isPlain text => .tagged tag isPlain text
  | .list items => .list (itemDocuments known items)
  | .table entries => tableOf (entryDocuments known entries)
  | .alias number => known number
  | .named _ node => toDocument known node

/-- The documents of the items of a list. -/
def itemDocuments (known : Nat → Document) : List Node → List Document
  | [] => []
  | item :: others => toDocument known item :: itemDocuments known others

/-- The documents of the entries of a table. -/
def entryDocuments (known : Nat → Document) : List (Node × Node) → List (Document × Document)
  | [] => []
  | (key, value) :: others =>
      (toDocument known key, toDocument known value) :: entryDocuments known others

end

/-- How deep a value may be. -/
def deepest : Nat := 128

/-- The document of a number, of which the last one counts. -/
def documentOf (documents : List (Nat × Document)) (number : Nat) : Document :=
  (documents.reverse.lookup number).getD .other

/-- The documents of nodes with numbers, which may hold one another, followed to a depth. -/
def documents (nodes : List (Nat × Node)) : Nat → List (Nat × Document)
  | 0 => []
  | depth + 1 =>
      let known := documentOf (documents nodes depth)
      nodes.map fun entry => (entry.1, toDocument known entry.2)

/-- The document of a node. -/
def resolve (node : Node) : Document :=
  toDocument (documentOf (documents (numbered node) deepest)) node

end Node

/-- The document of a YAML text.  A mark of the encoding may stand before it. -/
def read? (text : String) : Option Document := do
  let characters :=
    match text.toList with
    | '\ufeff' :: rest => unifyBreaks rest
    | whole => unifyBreaks whole
  if !characters.all isAllowed then none
  else some (← Node.ofTokens? (← Token.scan? characters)).resolve

end Yaml
end Document
end TableReach
