import ServiceCatalog.Catalog.Basic
import ServiceCatalog.Source.Syntax

/-!
# The source of the catalog

The generated client does not read a description again.  It holds the catalog as an expression
that builds it anew, step by step, with the same steps by which any catalog is put together.
A step that would set what is already set is left out: a parameter of the path is required
anyway, repeating is the standard format of lists, and absent texts need no step.
-/

namespace ServiceCatalog.Generation

set_option autoImplicit false

open Source

/-! ## Names of the runtime library -/

/-- A path in the library of descriptions. -/
def definePath (names : List String) : Expr := .path ("define" :: names)

/-- The expression of a verb. -/
def verbExpr (verb : Verb) : Expr :=
  definePath ["HttpVerb", match verb with
    | .get => "Get"
    | .post => "Post"
    | .put => "Put"
    | .patch => "Patch"
    | .delete => "Delete"
    | .head => "Head"
    | .options => "Options"]

/-- The expression of a placement. -/
def placementExpr (placement : Placement) : Expr :=
  definePath ["Placement", match placement with
    | .path => "Path"
    | .query => "Query"
    | .body => "Body"
    | .header => "Header"
    | .formData => "FormData"]

/-- The expression of a format of lists. -/
def formatExpr (format : CollectionFormat) : Expr :=
  definePath ["CollectionFormat", match format with
    | .csv => "Csv"
    | .ssv => "Ssv"
    | .tsv => "Tsv"
    | .pipes => "Pipes"
    | .multi => "Multi"]

/-- The expression of a kind of values. -/
def kindExpr : ValueKind → Expr
  | .string => definePath ["ValueKind", "String"]
  | .integer => definePath ["ValueKind", "Integer"]
  | .number => definePath ["ValueKind", "Number"]
  | .boolean => definePath ["ValueKind", "Boolean"]
  | .array items =>
      .call (definePath ["ValueKind", "Array"]) [.call (.path ["Box", "new"]) [kindExpr items]]
  | .json => definePath ["ValueKind", "Json"]

/-- The type of the values of a kind. -/
def kindType : ValueKind → Ty
  | .string => .named "String"
  | .integer => .named "i64"
  | .number => .named "f64"
  | .boolean => .named "bool"
  | .array items => .path ["Vec"] [kindType items]
  | .json => .path ["serde_json", "Value"] []

/-! ## Steps -/

/-- Adds a step to an expression. -/
def withStep (expr : Expr) (step : String) (argument : Expr) : Expr :=
  .method expr step [argument]

/-- Adds a step with a text, if there is one. -/
def withText (step : String) (text : Option String) (expr : Expr) : Expr :=
  match text with
  | some text => withStep expr step (.text text)
  | none => expr

/-- Adds a step if a condition holds. -/
def withStepIf (condition : Bool) (step : String) (argument expr : Expr) : Expr :=
  if condition then withStep expr step argument else expr

/-- The expression of a parameter. -/
def parameterExpr (parameter : Parameter) : Expr :=
  let start := Expr.call (definePath ["ParameterDescriptor", "new"])
    [.text parameter.name, placementExpr parameter.placement]
  withText "description" parameter.description <|
    withStepIf (parameter.collectionFormat != .standard) "collection_format"
      (formatExpr parameter.collectionFormat) <|
    withStepIf (parameter.required && parameter.placement != .path) "required" (.truth true) <|
    withStep start "kind" (kindExpr parameter.kind)

/-- The expression of an operation. -/
def operationExpr (operation : Operation) : Expr :=
  let start := Expr.call (definePath ["OperationDescriptor", "new"])
    [.text operation.name, verbExpr operation.verb, .text operation.path,
      .list (operation.parameters.map parameterExpr)]
  withStepIf operation.deprecated "deprecated" (.truth true) <|
    withText "description" operation.description <| withText "summary" operation.summary start

/-- The expression of a catalog. -/
def catalogExpr (catalog : Catalog) : Expr :=
  let start := Expr.call (definePath ["OperationCatalog", "new"]) [.text catalog.title]
  let described := withText "version" catalog.version <|
    withText "description" catalog.description <| withText "base_url" catalog.baseUrl start
  catalog.operations.foldl (fun expr operation =>
    withStep expr "operation" (operationExpr operation)) described

/-- The function that builds the catalog. -/
def catalogFunction (catalog : Catalog) : Function where
  attributes := [.doc " Rebuilds the operation catalog this client was generated from."]
  isAsync := false
  name := "catalog"
  typeParameters := []
  binders := []
  result := .path ["define", "OperationCatalog"] []
  body := []
  value := catalogExpr catalog

end ServiceCatalog.Generation
