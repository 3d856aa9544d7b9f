import ServiceCatalog.Generation.CatalogSource
import ServiceCatalog.Generation.Naming

/-!
# The source of parameter structures

Every operation has a structure for its arguments, with one field for each parameter in declared
order.  The field of a required parameter holds a value of its type and is given when the
structure is made; the field of another parameter may be empty and has a setter.  The structure
turns into the arguments of a call, under the names of the description.
-/

namespace ServiceCatalog.Generation

set_option autoImplicit false

open Source

/-! ## Fields -/

/-- The type of the field of a parameter. -/
def fieldType (parameter : Parameter) : Ty :=
  let type := kindType parameter.kind
  if parameter.required then type else .path ["Option"] [type]

/-- What documents the field of a parameter. -/
def fieldDoc (parameter : Parameter) : String :=
  match parameter.description with
  | some text => " " ++ text
  | none => " \x60" ++ parameter.name ++ "\x60 (" ++ parameter.placement.name ++ " parameter)."

/-- The field of a parameter. -/
def parameterField (parameter : Parameter) : StructField where
  attributes := [.doc (fieldDoc parameter)]
  isPublic := true
  name := fieldName parameter.name
  type := fieldType parameter

/-- The field of a parameter, read from the structure. -/
def ownField (parameter : Parameter) : Expr := .field .itself (fieldName parameter.name)

/-! ## Functions -/

/-- A function that is not awaited and has no type parameters. -/
def plainFunction (attributes : List Attribute) (name : String) (binders : List Binder)
    (result : Ty) (body : List Statement) (value : Expr) : Function :=
  ⟨attributes, false, name, [], binders, result, body, value⟩

/-- More parameters than this need a mark, so that they are not complained about. -/
def plainParameters : Nat := 7

/-- The function that makes the structure from every required value. -/
def constructor (operation : Operation) : Function :=
  let required := operation.parameters.filter Parameter.required
  let doc := Attribute.doc " Creates parameters from every required value."
  plainFunction
    (if plainParameters < required.length then
      [doc, .allows ["clippy", "too_many_arguments"]] else [doc])
    "new"
    (required.map fun parameter => .typed (fieldName parameter.name) (kindType parameter.kind))
    (.named "Self") []
    (.record ["Self"] (operation.parameters.map fun parameter =>
      let name := fieldName parameter.name
      (name, if parameter.required then .named name else .named "None")))

/-- The setter of a parameter that is not required. -/
def setter (parameter : Parameter) : Function :=
  plainFunction [.doc (" Sets \x60" ++ parameter.name ++ "\x60.")]
    (setterName (fieldName parameter.name))
    [.receiver .byMutableValue,
      .typed "value" (.existential (.path ["Into"] [kindType parameter.kind]))]
    (.named "Self")
    [.assign (ownField parameter)
      (.call (.named "Some") [.method (.named "value") "into" []])]
    .itself

/-- The expression of no arguments. -/
def noArguments : Expr := .call (.path ["Args", "new"]) []

/-- The function that turns the structure into arguments. -/
def converter (operation : Operation) : Function :=
  if operation.parameters.isEmpty then
    plainFunction [.doc " Converts into the runtime argument bag."] "into_args"
      [.receiver .byValue] (.named "Args") [] noArguments
  else
    plainFunction
      [.doc " Converts into the runtime argument bag. Unset optional values",
        .doc " become \x60null\x60, which counts as absent."]
      "into_args" [.receiver .byValue] (.named "Args")
      (.bind true "args" noArguments :: operation.parameters.map fun parameter =>
        .run (.method (.named "args") "insert" [.text parameter.name, ownField parameter]))
      (.named "args")

/-! ## Structures -/

/-- A request line, as documentation shows it. -/
def requestLine (operation : Operation) : String :=
  "\x60" ++ operation.verb.upper ++ " " ++ operation.path ++ "\x60"

/-- What documents the structure of an operation. -/
def structDocs (operation : Operation) : List String :=
  (" Parameters for \x60" ++ operation.name ++ "\x60 (" ++ requestLine operation ++ ").") ::
    match operation.summary with
    | some summary => ["", " " ++ summary]
    | none => []

/-- What can be done with the structure of an operation without asking; one that needs no value
also has a default. -/
def derivedTraits (operation : Operation) : List String :=
  if operation.parameters.any Parameter.required then ["Debug", "Clone", "PartialEq"]
  else ["Debug", "Clone", "Default", "PartialEq"]

/-- The structure of the parameters of an operation, with its functions. -/
def paramsItems (operation : Operation) (suffix : String) : List Item :=
  let name := structName operation.name suffix
  let optional := operation.parameters.filter fun parameter => !parameter.required
  [.record ((structDocs operation).map .doc ++ [.derives (derivedTraits operation)]) name
      (operation.parameters.map parameterField),
    .members name (([constructor operation] ++ optional.map setter ++
      [converter operation]).map .function)]

end ServiceCatalog.Generation
