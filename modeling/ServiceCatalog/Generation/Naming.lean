import ServiceCatalog.Text.Words

/-!
# Names in the generated source

Operations become methods and structures, parameters become fields.  Their names are brought into
the case style of what they become.  A text that is no name on its own is changed as little as
possible: an empty one becomes `param`, one that begins with a digit gets letters in front, and a
keyword gets an underscore behind it.
-/

namespace ServiceCatalog.Generation

set_option autoImplicit false

/-! ## Keywords -/

/-- The words that cannot be names in the generated source. -/
def keywords : List String := [
  "abstract", "as", "async", "await", "become", "box", "break", "const", "continue", "crate",
  "do", "dyn", "else", "enum", "extern", "false", "final", "fn", "for", "gen", "if", "impl",
  "in", "let", "loop", "macro", "match", "mod", "move", "mut", "override", "priv", "pub", "ref",
  "return", "self", "Self", "static", "struct", "super", "trait", "true", "try", "type",
  "typeof", "unsafe", "unsized", "use", "virtual", "where", "while", "yield"]

/-- A word that cannot be a name in the generated source. -/
def isKeyword (name : String) : Bool := keywords.contains name

/-! ## Methods and fields -/

/-- A text begins with a digit of the basic range. -/
def beginsWithDigit (text : String) : Bool := text.toList.head?.any Char.isDigit

/-- A text of small words as a name. -/
def escaped (text : String) : String :=
  if text.isEmpty then "param"
  else if beginsWithDigit text then "p_" ++ text
  else if isKeyword text then text ++ "_"
  else text

/-- The name of the field of a parameter. -/
def fieldName (parameter : String) : String := escaped (Text.snakeCase parameter)

/-- The name of the method of an operation. -/
def methodName (operation : String) : String := escaped (Text.snakeCase operation)

/-- A name without the underscores at its end. -/
def withoutUnderscores (name : String) : String :=
  String.ofList (Text.dropEndWhile (· == '_') name.toList)

/-- The name of the setter of a field. -/
def setterName (field : String) : String := "with_" ++ withoutUnderscores field

/-! ## Structures -/

/-- The name of the structure of the parameters of an operation. -/
def structName (operation suffix : String) : String :=
  let base := Text.pascalCase operation
  if base.isEmpty || beginsWithDigit base then "Op" ++ base ++ suffix else base ++ suffix

end ServiceCatalog.Generation
