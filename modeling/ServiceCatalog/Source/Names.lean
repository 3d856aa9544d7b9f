import ServiceCatalog.Source.Token
import ServiceCatalog.Text.Identifier

/-!
# Which names a source can hold

A word of a source begins with a letter or an underscore and goes on with letters, numbers and
underscores.  A tree with any other word among its tokens is not the tree of a source.  Of the
words, some are reserved, and nothing can be given such a name.
-/

namespace ServiceCatalog.Source

set_option autoImplicit false

/-! ## Possible words -/

/-- The word of a token that no source can hold. -/
def Token.impossible? : Token → Option String
  | .word name => if Text.isIdentifier name.toList then none else some name
  | _ => none

/-- The first word that no source can hold. -/
def File.impossibleName? (file : File) : Option String :=
  file.tokens.findSome? Token.impossible?

/-! ## Reserved words -/

/-- The words that nothing can be given as a name. -/
def reservedWords : List String := [
  "_", "abstract", "as", "async", "await", "become", "box", "break", "const", "continue",
  "crate", "do", "dyn", "else", "enum", "extern", "false", "final", "fn", "for", "if", "impl",
  "in", "let", "loop", "macro", "match", "mod", "move", "mut", "override", "priv", "pub", "ref",
  "return", "Self", "self", "static", "struct", "super", "trait", "true", "try", "type",
  "typeof", "unsafe", "unsized", "use", "virtual", "where", "while", "yield"]

/-- The names that a parameter gives. -/
def Binder.given : Binder → List String
  | .receiver _ => []
  | .typed name _ => [name]

/-- The names that a function gives: its own and those of its parameters. -/
def Function.given (function : Function) : List String :=
  function.name :: function.typeParameters.map Prod.fst ++ function.binders.flatMap Binder.given

/-- The names that a member of a structure gives. -/
def Member.given : Member → List String
  | .constant _ name _ _ => [name]
  | .function definition => definition.given

/-- The names that an item gives.  A module may be called `try`. -/
def Item.given : Item → List String
  | .submodule name => if name = "try" then [] else [name]
  | .imports _ _ _ => []
  | .record _ name fields => name :: fields.map StructField.name
  | .members _ contents => contents.flatMap Member.given
  | .function definition => definition.given

/-- The first name given that is a reserved word. -/
def File.reservedName? (file : File) : Option String :=
  (file.items.flatMap Item.given).find? reservedWords.contains

end ServiceCatalog.Source
