/-!
# The vocabulary of API descriptions

Four small enumerations: the verbs of requests, the places a parameter may be written to, the
kinds of values, and the formats in which lists are written.  Each comes with its names in
documents and messages, and with the reading of such a name.

Names are read exactly, with one exception: the verb of an operation may be written in any
mixture of capital and small letters.
-/

namespace ServiceCatalog

set_option autoImplicit false

/-! ## Verbs -/

/-- The verb of a request. -/
inductive Verb where
  | get
  | post
  | put
  | patch
  | delete
  | head
  | options
  deriving DecidableEq, Repr, Inhabited

namespace Verb

/-- All verbs. -/
def all : List Verb := [.get, .post, .put, .patch, .delete, .head, .options]

/-- The name of a verb in small letters, as documents key operations. -/
def lower : Verb → String
  | .get => "get"
  | .post => "post"
  | .put => "put"
  | .patch => "patch"
  | .delete => "delete"
  | .head => "head"
  | .options => "options"

/-- The name of a verb in capitals, as requests carry it. -/
def upper : Verb → String
  | .get => "GET"
  | .post => "POST"
  | .put => "PUT"
  | .patch => "PATCH"
  | .delete => "DELETE"
  | .head => "HEAD"
  | .options => "OPTIONS"

/-- The verb that a text names, in any mixture of capital and small letters of the basic
range. -/
def ofText? (text : String) : Option Verb :=
  all.find? fun verb => verb.lower.toList == text.toList.map Char.toLower

/-- The verbs by their names in small letters. -/
def names : List (String × Verb) := all.map fun verb => (verb.lower, verb)

/-- A verb that only reads, so that its answer may be kept. -/
def isRead : Verb → Bool
  | .get | .head => true
  | _ => false

end Verb

/-! ## Placements -/

/-- The part of a request that a parameter is written to. -/
inductive Placement where
  | path
  | query
  | body
  | header
  | formData
  deriving DecidableEq, Repr, Inhabited

namespace Placement

/-- All placements. -/
def all : List Placement := [.path, .query, .body, .header, .formData]

/-- The name of a placement. -/
def name : Placement → String
  | .path => "path"
  | .query => "query"
  | .body => "body"
  | .header => "header"
  | .formData => "formData"

/-- The placement with a name. -/
def ofText? (text : String) : Option Placement := all.find? fun placement => placement.name == text

/-- The placements by their names. -/
def names : List (String × Placement) := all.map fun placement => (placement.name, placement)

/-- The payload of a request is written from these placements. -/
def inPayload : Placement → Bool
  | .body | .formData => true
  | _ => false

end Placement

/-! ## Kinds of values -/

/-- The kind of value that a parameter carries. -/
inductive ValueKind where
  | string
  | integer
  | number
  | boolean
  | array (item : ValueKind)
  | json
  deriving DecidableEq, Repr, Inhabited

namespace ValueKind

/-- The kind of a scalar type; any other value is kept as it is. -/
def ofScalar : Option String → ValueKind
  | some "string" => .string
  | some "integer" => .integer
  | some "number" => .number
  | some "boolean" => .boolean
  | _ => .json

/-- The kind of a declared type, given the type of the items for lists.  A list of lists
declares no type for the inner items, so these are kept as they are. -/
def ofDeclared (declared items : Option String) : ValueKind :=
  if declared = some "array" then
    .array (if items = some "array" then .array .json else ofScalar items)
  else ofScalar declared

/-- A kind of lists. -/
def isArray : ValueKind → Bool
  | .array _ => true
  | _ => false

end ValueKind

/-! ## Formats of lists -/

/-- How the items of a list are written into one parameter. -/
inductive CollectionFormat where
  | csv
  | ssv
  | tsv
  | pipes
  | multi
  deriving DecidableEq, Repr, Inhabited

namespace CollectionFormat

/-- All formats. -/
def all : List CollectionFormat := [.csv, .ssv, .tsv, .pipes, .multi]

/-- The name of a format. -/
def name : CollectionFormat → String
  | .csv => "csv"
  | .ssv => "ssv"
  | .tsv => "tsv"
  | .pipes => "pipes"
  | .multi => "multi"

/-- The format with a name. -/
def ofText? (text : String) : Option CollectionFormat := all.find? fun format => format.name == text

/-- The formats by their names. -/
def names : List (String × CollectionFormat) := all.map fun format => (format.name, format)

/-- The text between two items; the repeating format has none, as it writes one pair per item. -/
def separator : CollectionFormat → Option String
  | .csv => some ","
  | .ssv => some " "
  | .tsv => some "\t"
  | .pipes => some "|"
  | .multi => none

/-- The format where none is declared. -/
def standard : CollectionFormat := .multi

end CollectionFormat

end ServiceCatalog
