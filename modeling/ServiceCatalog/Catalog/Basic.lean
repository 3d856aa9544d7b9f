import ServiceCatalog.Catalog.Template
import ServiceCatalog.Catalog.Vocabulary

/-!
# Operation catalogs

A catalog is what is known about an API: a title, perhaps a description, a version and a base
address, and a list of operations in declared order.  An operation is a verb with a path
template and a list of parameters; a parameter is a name with the place it is written to.

Catalogs are put together step by step.  `Parameter.declare`, `Operation.declare` and
`Catalog.titled` begin with the standard settings, and each of the functions after them changes
one setting.  Two settings follow from others when they are made this way: a parameter of the
path is always required, and an operation expects a payload exactly if a parameter is written to
one.  Values read from a record may hold any setting, so neither is an invariant of the type.
-/

namespace ServiceCatalog

set_option autoImplicit false

/-! ## Parameters -/

/-- A declared parameter of an operation. -/
structure Parameter where
  name : String
  placement : Placement
  required : Bool
  kind : ValueKind
  collectionFormat : CollectionFormat
  description : Option String
  deriving DecidableEq, Repr, Inhabited

namespace Parameter

/-- A parameter with the standard settings: required in the path and optional elsewhere, a
string, or any value in the body. -/
def declare (name : String) (placement : Placement) : Parameter where
  name := name
  placement := placement
  required := placement == .path
  kind := if placement = .body then .json else .string
  collectionFormat := .standard
  description := none

/-- Makes a parameter required or optional; in the path it stays required. -/
def withRequired (required : Bool) (parameter : Parameter) : Parameter :=
  { parameter with required := required || parameter.placement == .path }

/-- Sets the kind of value. -/
def withKind (kind : ValueKind) (parameter : Parameter) : Parameter :=
  { parameter with kind := kind }

/-- Sets the format of lists. -/
def withCollectionFormat (format : CollectionFormat) (parameter : Parameter) : Parameter :=
  { parameter with collectionFormat := format }

/-- Sets the description. -/
def withDescription (description : String) (parameter : Parameter) : Parameter :=
  { parameter with description := some description }

/-- What tells the parameters of an operation apart. -/
def key (parameter : Parameter) : String × Placement := (parameter.name, parameter.placement)

end Parameter

/-! ## Operations -/

/-- An operation of an API. -/
structure Operation where
  name : String
  verb : Verb
  path : String
  parameters : List Parameter
  expectsBody : Bool
  summary : Option String
  description : Option String
  deprecated : Bool
  deriving DecidableEq, Repr, Inhabited

namespace Operation

/-- An operation with the standard settings.  It expects a payload if a parameter is written to
one. -/
def declare (name : String) (verb : Verb) (path : String) (parameters : List Parameter) :
    Operation where
  name := name
  verb := verb
  path := path
  parameters := parameters
  expectsBody := parameters.any fun parameter => parameter.placement.inPayload
  summary := none
  description := none
  deprecated := false

/-- Sets the summary. -/
def withSummary (summary : String) (operation : Operation) : Operation :=
  { operation with summary := some summary }

/-- Sets the description. -/
def withDescription (description : String) (operation : Operation) : Operation :=
  { operation with description := some description }

/-- Marks an operation as deprecated, or removes the mark. -/
def withDeprecated (deprecated : Bool) (operation : Operation) : Operation :=
  { operation with deprecated := deprecated }

/-- The placeholders of the path. -/
def placeholders (operation : Operation) : List String := Template.names operation.path

/-- The parameters with a placement, in declared order. -/
def parametersIn (operation : Operation) (placement : Placement) : List Parameter :=
  operation.parameters.filter fun parameter => parameter.placement == placement

/-- The first parameter of the body. -/
def bodyParameter? (operation : Operation) : Option Parameter :=
  (operation.parametersIn .body).head?

/-- The first parameter with a name. -/
def parameter? (operation : Operation) (name : String) : Option Parameter :=
  operation.parameters.find? fun parameter => parameter.name == name

/-- An answer may be kept if the operation only reads and sends no payload. -/
def isCacheable (operation : Operation) : Bool :=
  operation.verb.isRead && !operation.expectsBody

end Operation

/-! ## Catalogs -/

/-- The operations of an API, with what is known about it. -/
structure Catalog where
  title : String
  description : Option String
  version : Option String
  baseUrl : Option String
  operations : List Operation
  deriving DecidableEq, Repr, Inhabited

namespace Catalog

/-- A catalog of no operations. -/
def titled (title : String) : Catalog where
  title := title
  description := none
  version := none
  baseUrl := none
  operations := []

/-- Sets the base address. -/
def withBaseUrl (baseUrl : String) (catalog : Catalog) : Catalog :=
  { catalog with baseUrl := some baseUrl }

/-- Sets the description. -/
def withDescription (description : String) (catalog : Catalog) : Catalog :=
  { catalog with description := some description }

/-- Sets the version. -/
def withVersion (version : String) (catalog : Catalog) : Catalog :=
  { catalog with version := some version }

/-- Adds an operation at the end. -/
def withOperation (operation : Operation) (catalog : Catalog) : Catalog :=
  { catalog with operations := catalog.operations ++ [operation] }

/-- The first operation with a name. -/
def find? (catalog : Catalog) (name : String) : Option Operation :=
  catalog.operations.find? fun operation => operation.name == name

end Catalog

end ServiceCatalog
