import ServiceCatalog.Source.Layout
import ServiceCatalog.Source.Syntax
import ServiceCatalog.Text.Blank
import ServiceCatalog.Text.Printable

/-!
# The generated source on paper

Every tree has a layout.  Lists are broken one element to a line, with a comma behind the last
one.  A chain of methods is broken before every dot, but stays with a short name at the beginning
of a line.  The content of a record goes on one line only if it is short.  Documentation stands in
lines of its own, with trailing blanks taken away; a text of several lines cannot, and is written
as the attribute it is.
-/

namespace ServiceCatalog.Source

set_option autoImplicit false

open Layout

/-! ## Building blocks -/

/-- How far an inner block is moved in. -/
def indentWidth : Int := 4

/-- What stands behind an element of a list: a comma and a blank, or at the end a place that
leaves a comma if the line ends there. -/
def listPlace (blankAtEnd : Nat) (last : Bool) : List Layout :=
  if last then [.gap ⟨blankAtEnd, -indentWidth, true, false⟩] else [.text ",", .space]

/-- Elements with the places between and behind them. -/
def listed (blankAtEnd : Nat) : List (List Layout) → List Layout
  | [] => []
  | element :: rest => element ++ listPlace blankAtEnd rest.isEmpty ++ listed blankAtEnd rest

/-- Elements between two texts, broken one to a line. -/
def bracketedList (opening closing : String) (indent : Int) (elements : List (List Layout)) :
    List Layout :=
  if elements.isEmpty then [.text opening, .text closing]
  else
    [.text opening, .uniformBox indent (.softBreak :: listed 0 elements), .text closing]

/-- Names with two colons between them. -/
def joined (segments : List String) : Layout := .text ("::".intercalate segments)

/-- A quoted text. -/
def literal (value : String) : Layout := .text (Text.quoted value)

/-! ## Types -/

mutual

/-- The layout of a type. -/
def Ty.layout : Ty → List Layout
  | .path segments arguments =>
      if arguments.isEmpty then [joined segments]
      else joined segments :: bracketedList "<" ">" indentWidth (tyLayouts arguments)
  | .reference target => .text "&" :: target.layout
  | .dynamic bound => .text "dyn " :: bound.layout
  | .existential bound => .text "impl " :: bound.layout

/-- The layouts of several types. -/
def tyLayouts : List Ty → List (List Layout)
  | [] => []
  | type :: types => type.layout :: tyLayouts types

end

/-! ## Expressions -/

/-- A name so short that a chain of methods stays with it. -/
def isShortName : Expr → Bool
  | .path [name] => (name.utf8ByteSize : Int) ≤ indentWidth
  | _ => false

/-- The place before a dot. -/
def dotPlace (atLineStart : Bool) (operand : Expr) : List Layout :=
  if atLineStart && isShortName operand then [] else [.softBreak]

/-- An expression that brings its own brackets and stands alone between others. -/
def isBlock : Expr → Bool
  | .record _ _ => true
  | _ => false

/-- The layout of a record, whose path and fields stay on one line only if they are short. -/
def recordLayout (path : List String) (fields : List (List Layout)) : List Layout :=
  if fields.isEmpty then [joined path, .text " \x7b\x7d"]
  else
    [.box true indentWidth (some 34)
      (joined path :: .text " \x7b" :: .space :: listed 1 fields), .text "\x7d"]

mutual

/-- The layout of an expression.  At the beginning of a line a chain stays with a short name. -/
def Expr.layout (atLineStart : Bool) : Expr → List Layout
  | .path segments => [joined segments]
  | .text value => [literal value]
  | .truth value => [.text (if value then "true" else "false")]
  | .call function arguments =>
      function.layout atLineStart ++ argumentsLayout arguments
  | .method receiver name arguments =>
      [.uniformBox indentWidth (receiver.chain atLineStart ++ dotPlace atLineStart receiver ++
        [.text ".", .text name,
          .uniformBox (if atLineStart && isShortName receiver then -indentWidth else 0)
            (argumentsLayout arguments)])]
  | .field receiver name =>
      [.uniformBox indentWidth (receiver.chain atLineStart ++ dotPlace atLineStart receiver ++
        [.text ".", .text name])]
  | .await operand =>
      [.uniformBox indentWidth (operand.chain atLineStart ++ dotPlace atLineStart operand ++
        [.text ".await"])]
  | .attempt operand => [.uniformBox indentWidth (operand.chain atLineStart ++ [.text "?"])]
  | .borrow operand => .text "&" :: operand.layout false
  | .list elements =>
      .text "vec!" :: bracketedList "[" "]" indentWidth (exprLayouts elements)
  | .record path fields => recordLayout path (fieldLayouts fields)

/-- The layout of an expression inside a chain. -/
def Expr.chain (atLineStart : Bool) : Expr → List Layout
  | .call function arguments => function.chain false ++ argumentsLayout arguments
  | .method receiver name arguments =>
      receiver.chain atLineStart ++ dotPlace atLineStart receiver ++
        [.text ".", .text name, .uniformBox 0 (argumentsLayout arguments)]
  | .field receiver name =>
      receiver.chain atLineStart ++ dotPlace atLineStart receiver ++ [.text ".", .text name]
  | .await operand =>
      operand.chain atLineStart ++ dotPlace atLineStart operand ++ [.text ".await"]
  | .attempt operand => operand.chain atLineStart ++ [.text "?"]
  | .path segments => [.uniformBox (-indentWidth) [joined segments]]
  | .text value => [.uniformBox (-indentWidth) [literal value]]
  | .truth value => [.uniformBox (-indentWidth) [.text (if value then "true" else "false")]]
  | .borrow operand => [.uniformBox (-indentWidth) (.text "&" :: operand.layout false)]
  | .list elements =>
      [.uniformBox (-indentWidth)
        (.text "vec!" :: bracketedList "[" "]" indentWidth (exprLayouts elements))]
  | .record path fields =>
      [.uniformBox (-indentWidth) (recordLayout path (fieldLayouts fields))]

/-- The layout of arguments. -/
def argumentsLayout : List Expr → List Layout
  | [single] =>
      if isBlock single then [.text "("] ++ single.layout false ++ [.text ")"]
      else bracketedList "(" ")" indentWidth [single.layout false]
  | arguments => bracketedList "(" ")" indentWidth (exprLayouts arguments)

/-- The layouts of several expressions. -/
def exprLayouts : List Expr → List (List Layout)
  | [] => []
  | expr :: exprs => expr.layout false :: exprLayouts exprs

/-- The layouts of the fields of a record. -/
def fieldLayouts : List (String × Expr) → List (List Layout)
  | [] => []
  | (name, value) :: fields =>
      (if (match value with | .path [variableName] => variableName == name | _ => false) then
        [.text name]
      else [.text name, .text ": ", .filledBox 0 (value.layout false)]) :: fieldLayouts fields

end

/-! ## Attributes -/

/-- A text without the blanks at its end. -/
def withoutBlanks (text : String) : String :=
  String.ofList (Text.dropEndWhile (· == ' ') text.toList)

/-- Every comment that is opened inside a text is closed inside it, and nothing else is closed:
the text can stand in a comment. -/
def isBalanced : Nat → List Char → Bool
  | depth, '/' :: '*' :: rest => isBalanced (depth + 1) rest
  | depth, '*' :: '/' :: rest => depth != 0 && isBalanced (depth - 1) rest
  | depth, _ :: rest => isBalanced depth rest
  | depth, [] => depth == 0

/-- The lines of a text, all but the last one without the blanks at their ends. -/
def withoutLineBlanks : List (List Char) → List (List Char)
  | [] => []
  | [last] => [last]
  | line :: lines => Text.dropEndWhile (· == ' ') line :: withoutLineBlanks lines

/-- The layout of documentation: a line of its own if it has no line end, a comment between its
own signs if it can stand in one, and otherwise the attribute. -/
def docLayout (inner : Bool) (doc : String) : List Layout :=
  if !doc.toList.contains '\n' then
    [.text (if inner then "//!" else "///"), .text (withoutBlanks doc), .lineEnd 0]
  else if isBalanced 0 doc.toList then
    let lines := withoutLineBlanks (Text.splitWhen (· == '\n') doc.toList)
    [.text (if inner then "/*!" else "/**"),
      .text (String.ofList (List.intercalate ['\n'] lines)), .text "*/", .lineEnd 0]
  else [.text (if inner then "#![doc = " else "#[doc = "), literal doc, .text "]", .space]

/-- The layout of an attribute. -/
def Attribute.layout : Attribute → List Layout
  | .doc line => docLayout false line
  | .derives traits => [.text ("#[derive(" ++ ", ".intercalate traits ++ ")]"), .space]
  | .deprecated => [.text "#[deprecated]", .space]
  | .allows lint => [.text ("#[allow(" ++ "::".intercalate lint ++ ")]"), .space]

/-- The layout of attributes. -/
def attributesLayout (given : List Attribute) : List Layout := given.flatMap Attribute.layout

/-! ## Functions -/

/-- The layout of a statement. -/
def Statement.layout : Statement → List Layout
  | .bind mutable name value =>
      [.filledBox 0 (.text (if mutable then "let mut " else "let ") :: .text name ::
        .text " = " :: .noBreak :: value.layout false ++ [.text ";"])]
  | .assign target value =>
      [.filledBox 0 [.filledBox 0 (target.layout false ++ .text " = " :: .noBreak ::
        value.layout false), .text ";"]]
  | .run value => [.filledBox 0 (value.layout true ++ [.text ";"])]

/-- The layout of a parameter. -/
def Binder.layout : Binder → List Layout
  | .receiver .byValue => [.text "self"]
  | .receiver .byMutableValue => [.text "mut self"]
  | .receiver .byReference => [.text "&self"]
  | .typed name type => .text name :: .text ": " :: type.layout

/-- The layout of what stands before the body of a function. -/
def Function.signature (function : Function) : List Layout :=
  .text "pub " :: (if function.isAsync then [.text "async "] else []) ++
    [.text "fn ", .text function.name] ++
    (if function.typeParameters.isEmpty then []
      else bracketedList "<" ">" 0 (function.typeParameters.map fun (name, bound) =>
        .text name :: .text ": " :: bound.layout)) ++
    [.text "(", .noBreak] ++
    (if function.binders.isEmpty then []
      else [.uniformBox 0 (.softBreak :: listed 0 (function.binders.map Binder.layout))]) ++
    [.text ")", .uniformBox (-indentWidth) (.text " -> " :: function.result.layout), .text " "]

/-- Lines, each in its own box and ended; behind the last one the block ends. -/
def ended : List (List Layout) → List Layout
  | [] => []
  | [last] => last ++ [.lineEnd (-indentWidth)]
  | line :: lines => line ++ .lineEnd 0 :: ended lines

/-- The layout of a function. -/
def Function.layout (function : Function) : List Layout :=
  attributesLayout function.attributes ++
    [.uniformBox indentWidth (function.signature ++ .text "\x7b" :: .lineEnd 0 ::
      ended (function.body.map Statement.layout ++
        [[.filledBox 0 (function.value.layout true)]])),
      .text "\x7d"]

/-! ## Items -/

/-- The layout of a field of a structure. -/
def StructField.layout (field : StructField) : List Layout :=
  attributesLayout field.attributes ++
    .text (if field.isPublic then "pub " else "") :: .text field.name :: .text ": " ::
      field.type.layout ++ [.text ","]

/-- The layout of a member of a structure. -/
def Member.layout : Member → List Layout
  | .constant given name type value =>
      attributesLayout given ++
        [.uniformBox 0 (.text "pub const " :: .text name :: .text ": " :: type.layout ++
          .text " = " :: .noBreak :: value.layout false ++ [.text ";"])]
  | .function definition => definition.layout

/-- The layout of a block that begins with some texts: empty brackets, or lines between them. -/
def blockLayout (start : List Layout) (lines : List (List Layout)) : List Layout :=
  if lines.isEmpty then start ++ [.text "\x7b\x7d"]
  else
    [.uniformBox indentWidth (start ++ .text "\x7b" :: .lineEnd 0 :: ended lines), .text "\x7d"]

/-- The layout of what an import brings in. -/
def Imported.layout : Imported → List Layout
  | .name single => [.text single]
  | .all => [.text "*"]
  | .names several =>
      [.text "\x7b", .uniformBox indentWidth [.softBreak,
        .filledBox 0 (List.intercalate [.text ",", .space]
          (several.map fun single => [.text single])),
        .gap ⟨0, -indentWidth, true, false⟩], .text "\x7d"]

/-- The layout of an item. -/
def Item.layout : Item → List Layout
  | .submodule name => [.text "pub mod ", .text name, .text ";"]
  | .imports isPublic path imported =>
      .text (if isPublic then "pub use " else "use ") :: joined path :: .text "::" ::
        imported.layout ++ [.text ";"]
  | .record given name fields =>
      attributesLayout given ++
        blockLayout [.text "pub struct ", .text name, .text " "] (fields.map StructField.layout)
  | .members name contents =>
      blockLayout [.text "impl ", .text name, .text " "] (contents.map Member.layout)
  | .function definition => definition.layout

/-- The layout of a file. -/
def File.layout (file : File) : Layout :=
  .uniformBox 0 (file.docs.flatMap (docLayout true) ++
    file.items.flatMap fun item => item.layout ++ [.lineEnd 0])

/-- The notice at the head of every generated file. -/
def notice : String :=
  "// This code was automatically generated by apibind-gen. Do not edit manually."

/-- A file on paper, with the notice and an empty line at its head. -/
def File.text (file : File) : String := notice ++ "\n\n" ++ file.layout.render

end ServiceCatalog.Source
