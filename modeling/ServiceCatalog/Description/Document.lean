import ServiceCatalog.Json.Decoder
import ServiceCatalog.Json.Printer

/-!
# The parts of an API description

A description is a document of the dialect Swagger 2.0.  This module reads the parts that
matter to a catalog out of JSON values: the document itself, its info, an operation, a
parameter, and the items of a list parameter.  Members that play no role are passed over.

Nearly every field may be absent here.  Which of them a catalog cannot do without is decided
where the catalog is put together, because that is where the place of the fault is known.

Versions are written as strings or as numbers.  A number without a fraction is shown with one
decimal place, so that the number `2` and the text `2.0` are the same version.
-/

namespace ServiceCatalog.Description

set_option autoImplicit false

open ServiceCatalog.Json

/-! ## Records of the document -/

/-- The info of a document. -/
structure Info where
  title : Option String
  description : Option String
  version : Option Value

/-- The info, field by field. -/
def Info.fields : List (RecordField Info) :=
  [.of "title" .optional (optional text) fun title info => { info with title := title },
    .of "description" .optional (optional text) fun description info =>
      { info with description := description },
    .of "version" .optional (optional anyValue) fun version info =>
      { info with version := version }]

/-- Reads the info. -/
def Info.decoder : Decoder Info := record "RawInfo" Info.fields ⟨none, none, none⟩

/-- A document.  Paths and shared parameters are kept as they are written. -/
structure Document where
  info : Option Info
  host : Option String
  basePath : Option String
  schemes : Option (List String)
  paths : Option (List (String × Value))
  parameters : List (String × Value)

/-- A document, field by field. -/
def Document.fields : List (RecordField Document) :=
  [.of "info" .optional (optional Info.decoder) fun info document => { document with info := info },
    .of "host" .optional (optional text) fun host document => { document with host := host },
    .of "basePath" .optional (optional text) fun basePath document =>
      { document with basePath := basePath },
    .of "schemes" .optional (optional (listOf text)) fun schemes document =>
      { document with schemes := schemes },
    .of "paths" .optional (optional (membersOf anyValue)) fun paths document =>
      { document with paths := paths },
    .of "parameters" .defaulted (membersOf anyValue) fun parameters document =>
      { document with parameters := parameters }]

/-- Reads a document. -/
def Document.decoder : Decoder Document :=
  record "RawDocument" Document.fields ⟨none, none, none, none, none, []⟩

/-- An operation as it is written. -/
structure WrittenOperation where
  identifier : Option String
  summary : Option String
  description : Option String
  deprecated : Bool
  parameters : List Value

/-- An operation, field by field. -/
def WrittenOperation.fields : List (RecordField WrittenOperation) :=
  [.of "operationId" .optional (optional text) fun identifier operation =>
      { operation with identifier := identifier },
    .of "summary" .optional (optional text) fun summary operation =>
      { operation with summary := summary },
    .of "description" .optional (optional text) fun description operation =>
      { operation with description := description },
    .of "deprecated" .defaulted boolean fun deprecated operation =>
      { operation with deprecated := deprecated },
    .of "parameters" .defaulted (listOf anyValue) fun parameters operation =>
      { operation with parameters := parameters }]

/-- Reads an operation. -/
def WrittenOperation.decoder : Decoder WrittenOperation :=
  record "RawOperation" WrittenOperation.fields ⟨none, none, none, false, []⟩

/-- The items of a list parameter: their type. -/
structure Items where
  type : Option String

/-- The items, field by field. -/
def Items.fields : List (RecordField Items) :=
  [.of "type" .optional (optional text) fun type items => { items with type := type }]

/-- Reads the items. -/
def Items.decoder : Decoder Items := record "RawItems" Items.fields ⟨none⟩

/-- A parameter as it is written. -/
structure WrittenParameter where
  name : Option String
  placement : Option String
  required : Bool
  description : Option String
  type : Option String
  items : Option Items
  collectionFormat : Option String

/-- A parameter, field by field. -/
def WrittenParameter.fields : List (RecordField WrittenParameter) :=
  [.of "name" .optional (optional text) fun name parameter => { parameter with name := name },
    .of "in" .optional (optional text) fun placement parameter =>
      { parameter with placement := placement },
    .of "required" .defaulted boolean fun required parameter =>
      { parameter with required := required },
    .of "description" .optional (optional text) fun description parameter =>
      { parameter with description := description },
    .of "type" .optional (optional text) fun type parameter => { parameter with type := type },
    .of "items" .optional (optional Items.decoder) fun items parameter =>
      { parameter with items := items },
    .of "collectionFormat" .optional (optional text) fun format parameter =>
      { parameter with collectionFormat := format }]

/-- Reads a parameter. -/
def WrittenParameter.decoder : Decoder WrittenParameter :=
  record "RawParameter" WrittenParameter.fields ⟨none, none, false, none, none, none, none⟩

/-! ## Versions -/

/-- The version that a value writes. -/
def versionText : Value → String
  | .string text => text
  | .number number =>
      if number.toBinary64.isWhole then number.toBinary64.wholeText
      else (Value.number number).compact
  | value => value.compact

end ServiceCatalog.Description
