import ServiceCatalog.Yaml.Document
import ServiceCatalog.Yaml.PlainValue

/-!
# From a document to a value

A document is read as a JSON value.  A scalar without quotes is read by its spelling, one with
quotes is a text, and a tag of the format's own can demand that a scalar is read as a truth value,
an integer, a number or null.  Other tags that begin with an exclamation mark are refused, except
on keys.  Keys are the texts of scalars, whatever they would say as values.

An alias stands for the value of the node that it names.  Two limits keep that finite:
collections may be nested 128 deep, and a hundred aliases may be followed per unit of the
document's size.
-/

namespace ServiceCatalog.Yaml

set_option autoImplicit false

/-! ## Scalars -/

/-- A tag of the format's own. -/
def ownTag (name : String) : TagText := Text.encode ("tag:yaml.org,2002:" ++ name).toList

/-- A tag begins with an exclamation mark. -/
def isLocalTag (tag : TagText) : Bool := tag.head? == some '!'.toUInt8

/-- A tag asks for a type of its own: it begins with an exclamation mark and is a text. -/
def asksForType (tag : Option TagText) : Bool :=
  tag.any fun tag => isLocalTag tag && (Text.decode? tag).isSome

/-- The value of a text under a tag. -/
def taggedValue? (tag : TagText) (plain : Bool) (text : String) : Option Json.Value :=
  if tag = ownTag "bool" then (truthValue? text).map .bool
  else if tag = ownTag "int" then (integer? text.toList).bind integerValue?
  else if tag = ownTag "float" then (real? text).map (·.value)
  else if tag = ownTag "null" then if isNullWord text then some .null else none
  else if isLocalTag tag && plain then plainValue? text
  else some (.string text)

/-- The value of a scalar. -/
def scalarValue? (tag : Option TagText) (plain : Bool) (text : String) : Option Json.Value :=
  match tag with
  | some tag => taggedValue? tag plain text
  | none => if plain then plainValue? text else some (.string text)

/-! ## Aliases -/

/-- How many aliases may still be followed. -/
abbrev Resolving := StateT Nat Option

/-- How many aliases may be followed per unit of a document's size. -/
def aliasesPerUnit : Nat := 100

/-- The deepest nesting of collections. -/
def deepestNesting : Nat := 128

/-- Follows an alias to a node among those with anchors, the last one first.  No alias has an
anchor itself. -/
def follow (anchored : List (Nat × Node)) : Node → Resolving Node
  | .alias anchor => do
      match ← get with
      | 0 => failure
      | left + 1 =>
          set left
          match anchored.lookup anchor with
          | some node => return node
          | none => failure
  | node => return node

/-! ## Nodes -/

/-- The text of a key. -/
def keyText (anchored : List (Nat × Node)) (node : Node) : Resolving String := do
  match ← follow anchored node with
  | .scalar _ _ text => return text
  | _ => failure

/-- The value of a node, with room for some more levels of nesting. -/
def resolve (anchored : List (Nat × Node)) : Nat → Node → Resolving Json.Value
  | depth, node => do
      match ← follow anchored node with
      | .scalar properties plain text =>
          if asksForType properties.tag then failure
          else StateT.lift (scalarValue? properties.tag plain text)
      | .sequence properties items =>
          match depth with
          | 0 => failure
          | depth + 1 =>
              if asksForType properties.tag then failure
              else return .array (← items.mapM (resolve anchored depth))
      | .mapping properties entries =>
          match depth with
          | 0 => failure
          | depth + 1 =>
              if asksForType properties.tag then failure
              else
                let members ← entries.mapM fun (key, value) => do
                  return (← keyText anchored key, ← resolve anchored depth value)
                return .ofMembers members
      | .alias _ => failure
  termination_by structural depth => depth

/-- The value of a document. -/
def documentValue? (root : Node) : Option Json.Value :=
  ((resolve root.anchored.reverse deepestNesting root).run (aliasesPerUnit * root.size)).map
    (·.1)

/-- The value that a text writes; a text without a document is null. -/
def parse? (text : String) : Option Json.Value := do
  match ← document? text with
  | some root => documentValue? root
  | none => return .null

end ServiceCatalog.Yaml
