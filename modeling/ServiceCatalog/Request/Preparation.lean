import ServiceCatalog.Catalog.Basic
import ServiceCatalog.Request.Arguments
import ServiceCatalog.Request.Basic

/-!
# From arguments to a request

Preparing a call places every argument where its parameter is declared: in the path, the query,
the headers, or the payload.  The declaration alone decides the place, never the shape of the
argument, and arguments of undeclared names are left out.

* A required parameter without an argument stops the preparation; the first one in declared order
  is reported.
* In the path and in headers a list is written with commas between its items.
* In the query and in forms a list gives one pair per item, or one joined pair where its format
  has a separator.
* The overrides of a call come last.  Every pair of an overridden name is taken out, and the
  overrides are added at the end; an override with `null` only takes out.
* Form fields, if there are any, take the place of a JSON payload.

A prepared call carries the key under which its answer may be stored, which is the full address
of the request.
-/

namespace ServiceCatalog

set_option autoImplicit false

open ServiceCatalog.Json

/-! ## Writing values as text -/

/-- A value as text: a string as it is, any other value as JSON. -/
def Json.Value.asText : Value → String
  | .string text => text
  | value => value.compact

/-- A value as one text, the items of a list joined by a separator. -/
def Json.Value.joined (separator : String) : Value → String
  | .array items => separator.intercalate (items.map Value.asText)
  | value => value.asText

/-- The pairs of a named value.  In the repeating format a list gives a pair for every item that
is not `null`; in the other formats its items are joined. -/
def pairsOf (name : String) (format : CollectionFormat) : Value → List (String × String)
  | .array items =>
      match format.separator with
      | none => (items.filter fun item => !item.isNull).map fun item => (name, item.asText)
      | some separator => [(name, (Value.array items).joined separator)]
  | value => [(name, value.asText)]

/-! ## Settings of a call -/

/-- The settings of a call that are no arguments: whether a stored answer may be used, how long
the transport may take, the cache by its name, how long an answer stays valid, and overrides of
query pairs. -/
structure CallOptions where
  refresh : Bool
  timeout : Option Nat
  cache : Option String
  lifetime : Option Nat
  overrides : List (String × Value)
  deriving Inhabited, Repr

/-- No settings. -/
def CallOptions.none : CallOptions := ⟨false, Option.none, Option.none, Option.none, []⟩

/-! ## Preparation -/

/-- A required parameter has no argument. -/
structure MissingParameter where
  operation : String
  parameter : String
  deriving DecidableEq, Repr

/-- A request with the key of its answer. -/
structure PreparedCall where
  request : Request
  cacheKey : String
  deriving Repr

/-- What is between the items of a list in the path and in headers. -/
def listSeparator : String := ","

/-- Takes out the pairs of overridden names and adds the overrides that are not `null`. -/
def applyOverrides (overrides : List (String × Value)) (query : List (String × String)) :
    List (String × String) :=
  (query.filter fun pair => !overrides.any fun override => override.1 == pair.1) ++
    (overrides.filter fun override => !override.2.isNull).flatMap fun override =>
      pairsOf override.1 .multi override.2

namespace Operation

/-- The first required parameter without an argument. -/
def missing? (operation : Operation) (arguments : Arguments) : Option Parameter :=
  operation.parameters.find? fun parameter =>
    parameter.required && !arguments.contains parameter.name

/-- The parameters with a placement that have an argument, each with its argument. -/
def supplied (operation : Operation) (arguments : Arguments) (placement : Placement) :
    List (Parameter × Value) :=
  (operation.parametersIn placement).filterMap fun parameter =>
    (arguments.get? parameter.name).map fun value => (parameter, value)

/-- The path with its placeholders filled in. -/
def filledPath (operation : Operation) (arguments : Arguments) : String :=
  Template.fill operation.path <|
    (operation.supplied arguments .path).map fun (parameter, value) =>
      (parameter.name, value.joined listSeparator)

/-- The pairs of the parameters with a placement. -/
def suppliedPairs (operation : Operation) (arguments : Arguments) (placement : Placement) :
    List (String × String) :=
  (operation.supplied arguments placement).flatMap fun (parameter, value) =>
    pairsOf parameter.name parameter.collectionFormat value

/-- The headers. -/
def suppliedHeaders (operation : Operation) (arguments : Arguments) : List (String × String) :=
  (operation.supplied arguments .header).map fun (parameter, value) =>
    (parameter.name, value.joined listSeparator)

/-- The payload: form fields if there are any, otherwise the argument of the body. -/
def suppliedPayload (operation : Operation) (arguments : Arguments) : Option Payload :=
  match operation.suppliedPairs arguments .formData with
  | [] => (operation.bodyParameter?.bind fun parameter => arguments.get? parameter.name).map .json
  | fields => some (.form fields)

/-- Prepares a call of an operation at a base address. -/
def prepare (operation : Operation) (baseUrl : String) (arguments : Arguments)
    (options : CallOptions) : Except MissingParameter PreparedCall :=
  match operation.missing? arguments with
  | some parameter => .error ⟨operation.name, parameter.name⟩
  | none =>
      let request : Request := {
        verb := operation.verb
        url := baseUrl ++ operation.filledPath arguments
        query := applyOverrides options.overrides (operation.suppliedPairs arguments .query)
        payload := operation.suppliedPayload arguments
        headers := operation.suppliedHeaders arguments
        timeout := options.timeout }
      .ok ⟨request, request.fullUrl⟩

end Operation

end ServiceCatalog
