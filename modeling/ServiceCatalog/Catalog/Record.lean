import ServiceCatalog.Catalog.Basic
import ServiceCatalog.Json.Decoder

/-!
# Catalogs as JSON records

A catalog is stored as a JSON object whose members are the fields of the catalog, in declared
order, with absent texts written as `null`.  Operations and parameters are records of the same
sort.  The kind of a value is stored by its name, a kind of lists as an object that holds the
kind of the items under the name `array`.

Writing is `Catalog.toValue`, reading is `Catalog.decoder`.  Reading takes every flag as it is
written: nothing is computed anew and nothing is checked.
-/

namespace ServiceCatalog

set_option autoImplicit false

open ServiceCatalog.Json

/-! ## Writing -/

/-- A text that may be absent. -/
def optionalText : Option String → Value
  | some text => .string text
  | none => .null

/-- A kind of value. -/
def ValueKind.toValue : ValueKind → Value
  | .string => .string "string"
  | .integer => .string "integer"
  | .number => .string "number"
  | .boolean => .string "boolean"
  | .array item => .object [("array", item.toValue)]
  | .json => .string "json"

/-- A parameter. -/
def Parameter.toValue (parameter : Parameter) : Value :=
  .object
    [("name", .string parameter.name),
      ("placement", .string parameter.placement.name),
      ("required", .bool parameter.required),
      ("kind", parameter.kind.toValue),
      ("collection_format", .string parameter.collectionFormat.name),
      ("description", optionalText parameter.description)]

/-- An operation. -/
def Operation.toValue (operation : Operation) : Value :=
  .object
    [("name", .string operation.name),
      ("verb", .string operation.verb.lower),
      ("path", .string operation.path),
      ("parameters", .array (operation.parameters.map Parameter.toValue)),
      ("expects_body", .bool operation.expectsBody),
      ("summary", optionalText operation.summary),
      ("description", optionalText operation.description),
      ("deprecated", .bool operation.deprecated)]

/-- A catalog. -/
def Catalog.toValue (catalog : Catalog) : Value :=
  .object
    [("title", .string catalog.title),
      ("description", optionalText catalog.description),
      ("version", optionalText catalog.version),
      ("base_url", optionalText catalog.baseUrl),
      ("operations", .array (catalog.operations.map Operation.toValue))]

/-! ## Reading -/

/-- The kinds with a bare name, and the kind of lists. -/
def ValueKind.recordNames : List String :=
  ["string", "integer", "number", "boolean", "array", "json"]

/-- The kind with a bare name.  The kind of lists needs the kind of its items. -/
def ValueKind.ofName (name : String) : Except Mismatch ValueKind :=
  if name = "string" then .ok .string
  else if name = "integer" then .ok .integer
  else if name = "number" then .ok .number
  else if name = "boolean" then .ok .boolean
  else if name = "json" then .ok .json
  else if name = "array" then .error (.wrongType .bareName .nameWithContent)
  else .error (.unknownName name ValueKind.recordNames)

/-- A kind of value. -/
def ValueKind.decoder : Decoder ValueKind
  | .string name => ValueKind.ofName name
  | .object [(name, content)] =>
      if name = "array" then do
        let item ← ValueKind.decoder content
        return .array item
      else do
        let kind ← ValueKind.ofName name
        unit content
        return kind
  | .object _ => .error (.wrongValue .map .singleMember)
  | value => .error (.wrongType value.shape .nameOrMap)

/-- The fields of a parameter. -/
def Parameter.fields : List (RecordField Parameter) :=
  [.of "name" .required text fun name parameter => { parameter with name := name },
    .of "placement" .required (oneOf Placement.names) fun placement parameter =>
      { parameter with placement := placement },
    .of "required" .required boolean fun required parameter =>
      { parameter with required := required },
    .of "kind" .required ValueKind.decoder fun kind parameter => { parameter with kind := kind },
    .of "collection_format" .required (oneOf CollectionFormat.names) fun format parameter =>
      { parameter with collectionFormat := format },
    .of "description" .optional (optional text) fun description parameter =>
      { parameter with description := description }]

/-- A parameter. -/
def Parameter.decoder : Decoder Parameter :=
  record "ParameterDescriptor" Parameter.fields (Parameter.declare "" .path)

/-- The fields of an operation. -/
def Operation.fields : List (RecordField Operation) :=
  [.of "name" .required text fun name operation => { operation with name := name },
    .of "verb" .required (oneOf Verb.names) fun verb operation => { operation with verb := verb },
    .of "path" .required text fun path operation => { operation with path := path },
    .of "parameters" .required (listOf Parameter.decoder) fun parameters operation =>
      { operation with parameters := parameters },
    .of "expects_body" .required boolean fun expectsBody operation =>
      { operation with expectsBody := expectsBody },
    .of "summary" .optional (optional text) fun summary operation =>
      { operation with summary := summary },
    .of "description" .optional (optional text) fun description operation =>
      { operation with description := description },
    .of "deprecated" .required boolean fun deprecated operation =>
      { operation with deprecated := deprecated }]

/-- An operation. -/
def Operation.decoder : Decoder Operation :=
  record "OperationDescriptor" Operation.fields (Operation.declare "" .get "" [])

/-- The fields of a catalog. -/
def Catalog.fields : List (RecordField Catalog) :=
  [.of "title" .required text fun title catalog => { catalog with title := title },
    .of "description" .optional (optional text) fun description catalog =>
      { catalog with description := description },
    .of "version" .optional (optional text) fun version catalog =>
      { catalog with version := version },
    .of "base_url" .optional (optional text) fun baseUrl catalog =>
      { catalog with baseUrl := baseUrl },
    .of "operations" .required (listOf Operation.decoder) fun operations catalog =>
      { catalog with operations := operations }]

/-- A catalog. -/
def Catalog.decoder : Decoder Catalog :=
  record "OperationCatalog" Catalog.fields (Catalog.titled "")

end ServiceCatalog
