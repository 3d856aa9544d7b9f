/-!
# Tokens and nodes of a YAML text

The tokens of a text are its signs, its scalars, and the beginnings and ends of the collections
that its indentation marks.  A key stands behind a token of its own also where no question mark
announces it.

A document is a tree of scalars, sequences and mappings, in which an alias may stand for another
node.  A node that an alias can stand for carries the number of its anchor.  Numbers need not be
unique: an alias stands for the last node, in the order of the text, with its number.
-/

namespace ServiceCatalog.Yaml

set_option autoImplicit false

/-! ## Tokens -/

/-- The octets of a tag, or of a part of one. -/
abbrev TagText := List UInt8

/-- A token. -/
inductive Token where
  | versionDirective (major minor : Nat)
  | tagDirective (handle : String) (stem : TagText)
  | documentStart
  | documentEnd
  | blockSequenceStart
  | blockMappingStart
  | blockEnd
  | flowSequenceStart
  | flowSequenceEnd
  | flowMappingStart
  | flowMappingEnd
  | blockEntry
  | flowEntry
  | key
  | value
  | alias (name : String)
  | anchor (name : String)
  | tag (handle : String) (suffix : TagText)
  | scalar (plain : Bool) (text : String)
  deriving DecidableEq, Repr, Inhabited

/-! ## Nodes -/

/-- What may be said of a node: the number of its anchor, and its tag. -/
structure Properties where
  anchor : Option Nat
  tag : Option TagText
  deriving DecidableEq, Repr

/-- A node without properties has neither. -/
def Properties.none : Properties := ⟨Option.none, Option.none⟩

/-- A node. -/
inductive Node where
  | alias (anchor : Nat)
  | scalar (properties : Properties) (plain : Bool) (text : String)
  | sequence (properties : Properties) (items : List Node)
  | mapping (properties : Properties) (entries : List (Node × Node))
  deriving Inhabited, Repr

/-- An empty plain scalar. -/
def Node.empty : Node := .scalar .none true ""

/-! ## Anchors -/

/-- A node under the number of its anchor. -/
def anchoredHere (properties : Properties) (node : Node) : List (Nat × Node) :=
  (properties.anchor.map fun anchor => (anchor, node)).toList

mutual

/-- The anchored nodes in a node, in the order of the text. -/
def Node.anchored : Node → List (Nat × Node)
  | .alias _ => []
  | .scalar properties plain text => anchoredHere properties (.scalar properties plain text)
  | .sequence properties items =>
      anchoredHere properties (.sequence properties items) ++ anchoredItems items
  | .mapping properties entries =>
      anchoredHere properties (.mapping properties entries) ++ anchoredEntries entries

/-- The anchored nodes in the items of a sequence. -/
def anchoredItems : List Node → List (Nat × Node)
  | [] => []
  | item :: items => item.anchored ++ anchoredItems items

/-- The anchored nodes in the entries of a mapping. -/
def anchoredEntries : List (Node × Node) → List (Nat × Node)
  | [] => []
  | (key, value) :: entries => key.anchored ++ value.anchored ++ anchoredEntries entries

end

/-! ## Size -/

mutual

/-- The size of a node: one for a scalar or an alias, two for a collection besides its parts. -/
def Node.size : Node → Nat
  | .alias _ => 1
  | .scalar _ _ _ => 1
  | .sequence _ items => 2 + sizeOfItems items
  | .mapping _ entries => 2 + sizeOfEntries entries

/-- The size of the items of a sequence. -/
def sizeOfItems : List Node → Nat
  | [] => 0
  | item :: items => item.size + sizeOfItems items

/-- The size of the entries of a mapping. -/
def sizeOfEntries : List (Node × Node) → Nat
  | [] => 0
  | (key, value) :: entries => key.size + value.size + sizeOfEntries entries

end

end ServiceCatalog.Yaml
