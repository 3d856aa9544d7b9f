import ServiceCatalog.Json.Printer
import ServiceCatalog.Source.Syntax

/-!
# Tokens of the generated source

What a source says is its sequence of tokens: words, single marks, and quoted texts by their
values.  Documentation is an attribute like any other, so a line of it is the tokens of that
attribute.  A comma before a closing mark says nothing and is not among the tokens.

`File.tokens` reads the tokens off the tree, and `tokenLine` writes a sequence of tokens on one
line with a space between any two.
-/

namespace ServiceCatalog.Source

set_option autoImplicit false

/-- A token. -/
inductive Token where
  | word (name : String)
  | mark (sign : Char)
  | text (value : String)
  deriving DecidableEq, Repr

/-- A token as a line of tokens shows it. -/
def Token.shown : Token → String
  | .word name => name
  | .mark sign => String.singleton sign
  | .text value => (Json.Value.string value).compact

/-- Tokens on one line, with a space between any two. -/
def tokenLine (tokens : List Token) : String := " ".intercalate (tokens.map Token.shown)

/-- Tokens with nothing between them. -/
def tokenText (tokens : List Token) : String := String.join (tokens.map Token.shown)

/-! ## Building blocks -/

/-- The marks of a text. -/
def marks (signs : String) : List Token := signs.toList.map .mark

/-- Tokens between two marks. -/
def enclosed (opening closing : Char) (tokens : List Token) : List Token :=
  .mark opening :: tokens ++ [.mark closing]

/-- Sequences of tokens with a comma between any two. -/
def commaTokens (parts : List (List Token)) : List Token := List.intercalate [.mark ','] parts

/-- A path, with two colons between any two names. -/
def pathTokens (segments : List String) : List Token :=
  List.intercalate (marks "::") (segments.map fun segment => [.word segment])

/-! ## Types and expressions -/

mutual

/-- The tokens of a type. -/
def Ty.tokens : Ty → List Token
  | .path segments arguments =>
      pathTokens segments ++
        (if arguments.isEmpty then [] else enclosed '<' '>' (commaTokens (tysTokens arguments)))
  | .reference target => .mark '&' :: target.tokens
  | .dynamic bound => .word "dyn" :: bound.tokens
  | .existential bound => .word "impl" :: bound.tokens

/-- The tokens of several types. -/
def tysTokens : List Ty → List (List Token)
  | [] => []
  | type :: types => type.tokens :: tysTokens types

end

/-- The value of a field is the variable of its name. -/
def isShorthand (name : String) : Expr → Bool
  | .path [variableName] => variableName == name
  | _ => false

mutual

/-- The tokens of an expression. -/
def Expr.tokens : Expr → List Token
  | .path segments => pathTokens segments
  | .text value => [.text value]
  | .truth value => [.word (if value then "true" else "false")]
  | .call function arguments =>
      function.tokens ++ enclosed '(' ')' (commaTokens (exprsTokens arguments))
  | .method receiver name arguments =>
      receiver.tokens ++ [.mark '.', .word name] ++
        enclosed '(' ')' (commaTokens (exprsTokens arguments))
  | .field receiver name => receiver.tokens ++ [.mark '.', .word name]
  | .await operand => operand.tokens ++ [.mark '.', .word "await"]
  | .attempt operand => operand.tokens ++ [.mark '?']
  | .borrow operand => .mark '&' :: operand.tokens
  | .list elements =>
      [.word "vec", .mark '!'] ++ enclosed '[' ']' (commaTokens (exprsTokens elements))
  | .record path fields =>
      pathTokens path ++ enclosed '\x7b' '\x7d' (commaTokens (fieldsTokens fields))

/-- The tokens of several expressions. -/
def exprsTokens : List Expr → List (List Token)
  | [] => []
  | expr :: exprs => expr.tokens :: exprsTokens exprs

/-- The tokens of the fields of a record. -/
def fieldsTokens : List (String × Expr) → List (List Token)
  | [] => []
  | (name, value) :: fields =>
      (.word name :: (if isShorthand name value then [] else .mark ':' :: value.tokens)) ::
        fieldsTokens fields

end

/-! ## Functions -/

/-- The tokens of a statement. -/
def Statement.tokens : Statement → List Token
  | .bind mutable name value =>
      .word "let" :: (if mutable then [.word "mut"] else []) ++
        [.word name, .mark '='] ++ value.tokens ++ [.mark ';']
  | .assign target value => target.tokens ++ .mark '=' :: value.tokens ++ [.mark ';']
  | .run value => value.tokens ++ [.mark ';']

/-- The tokens of a parameter. -/
def Binder.tokens : Binder → List Token
  | .receiver .byValue => [.word "self"]
  | .receiver .byMutableValue => [.word "mut", .word "self"]
  | .receiver .byReference => [.mark '&', .word "self"]
  | .typed name type => [.word name, .mark ':'] ++ type.tokens

/-- The tokens inside the brackets of an attribute. -/
def Attribute.content : Attribute → List Token
  | .doc text => [.word "doc", .mark '=', .text text]
  | .derives traits =>
      .word "derive" :: enclosed '(' ')' (commaTokens (traits.map fun name => [.word name]))
  | .deprecated => [.word "deprecated"]
  | .allows lint => .word "allow" :: enclosed '(' ')' (pathTokens lint)

/-- The tokens of an attribute. -/
def Attribute.tokens (given : Attribute) : List Token :=
  .mark '#' :: enclosed '[' ']' given.content

/-- The tokens of attributes. -/
def attributesTokens (attributes : List Attribute) : List Token :=
  attributes.flatMap Attribute.tokens

/-- The tokens of a function. -/
def Function.tokens (function : Function) : List Token :=
  attributesTokens function.attributes ++ [.word "pub"] ++
    (if function.isAsync then [.word "async"] else []) ++ [.word "fn", .word function.name] ++
    (if function.typeParameters.isEmpty then []
      else enclosed '<' '>' (commaTokens (function.typeParameters.map fun (name, bound) =>
        [.word name, .mark ':'] ++ bound.tokens))) ++
    enclosed '(' ')' (commaTokens (function.binders.map Binder.tokens)) ++ marks "->" ++
    function.result.tokens ++
    enclosed '\x7b' '\x7d' (function.body.flatMap Statement.tokens ++ function.value.tokens)

/-! ## Items -/

/-- The tokens of a field of a structure. -/
def StructField.tokens (field : StructField) : List Token :=
  attributesTokens field.attributes ++ (if field.isPublic then [.word "pub"] else []) ++
    [.word field.name, .mark ':'] ++ field.type.tokens

/-- The tokens of a member of a structure. -/
def Member.tokens : Member → List Token
  | .constant attributes name type value =>
      attributesTokens attributes ++ [.word "pub", .word "const", .word name, .mark ':'] ++
        type.tokens ++ .mark '=' :: value.tokens ++ [.mark ';']
  | .function definition => definition.tokens

/-- The tokens of what an import brings in. -/
def Imported.tokens : Imported → List Token
  | .name single => [.word single]
  | .all => [.mark '*']
  | .names several =>
      enclosed '\x7b' '\x7d' (commaTokens (several.map fun single => [.word single]))

/-- The tokens of an item. -/
def Item.tokens : Item → List Token
  | .submodule name => [.word "pub", .word "mod", .word name, .mark ';']
  | .imports isPublic path imported =>
      (if isPublic then [.word "pub"] else []) ++ .word "use" :: pathTokens path ++ marks "::" ++
        imported.tokens ++ [.mark ';']
  | .record attributes name fields =>
      attributesTokens attributes ++ [.word "pub", .word "struct", .word name] ++
        enclosed '\x7b' '\x7d' (commaTokens (fields.map StructField.tokens))
  | .members name contents =>
      [.word "impl", .word name] ++ enclosed '\x7b' '\x7d' (contents.flatMap Member.tokens)
  | .function definition => definition.tokens

/-- The tokens of a line that documents a file. -/
def fileDocTokens (text : String) : List Token :=
  marks "#!" ++ enclosed '[' ']' (Attribute.content (.doc text))

/-- The tokens of a file. -/
def File.tokens (file : File) : List Token :=
  file.docs.flatMap fileDocTokens ++ file.items.flatMap Item.tokens

end ServiceCatalog.Source
