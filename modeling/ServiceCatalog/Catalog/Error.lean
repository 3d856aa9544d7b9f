import ServiceCatalog.Catalog.Vocabulary
import ServiceCatalog.Json.Decoder

/-!
# What can be wrong with an API description

A description that cannot be loaded, or that loads to an inconsistent catalog, gives a
`CatalogError`: the cause, with the names it concerns.  The wording is `CatalogError.message`.
The first two causes, texts that are no JSON and no YAML at all, have no wording here.
-/

namespace ServiceCatalog

set_option autoImplicit false

/-- Why a part of a document does not have the form it should have. -/
inductive Malformation where
  | missingField (name : String)
  | pathItemNotObject
  | parametersNotArray
  | unknownMember (name : String)
  | unknownCollectionFormat (text : String)
  | mismatch (cause : Json.Mismatch)
  deriving DecidableEq, Repr

/-- Which rule on payloads an operation breaks. -/
inductive PayloadConflict where
  | severalBodies (count : Nat)
  | bodyAndForm
  deriving DecidableEq, Repr

/-- Why a description gives no catalog. -/
inductive CatalogError where
  | notJson
  | notYaml
  | malformed (location : String) (cause : Malformation)
  | unsupportedVersion (version : String)
  | unknownPlacement (operation parameter placement : String)
  | unresolvedReference (reference : String)
  | duplicateOperation (operation : String)
  | duplicateParameter (operation parameter : String)
  | conflictingBody (operation : String) (conflict : PayloadConflict)
  | unresolvedPlaceholder (operation path placeholder : String)
  | unusedPathParameter (operation path parameter : String)
  deriving DecidableEq, Repr

/-- The wording of a malformation. -/
def Malformation.message : Malformation → String
  | .missingField name => "missing required field '" ++ name ++ "'"
  | .pathItemNotObject => "path item must be an object"
  | .parametersNotArray => "parameters must be an array"
  | .unknownMember name => "unknown path item field '" ++ name ++ "'"
  | .unknownCollectionFormat text => "unknown collectionFormat '" ++ text ++ "'"
  | .mismatch cause => cause.message

/-- The wording of a conflict of payloads. -/
def PayloadConflict.message : PayloadConflict → String
  | .severalBodies count =>
      Numeric.natText count ++ " body parameters declared, at most one is allowed"
  | .bodyAndForm => "body and formData parameters cannot be combined"

/-- The wording of an error, for those that have one. -/
def CatalogError.message? : CatalogError → Option String
  | .notJson => none
  | .notYaml => none
  | .malformed location cause =>
      some ("Invalid schema at '" ++ location ++ "': " ++ cause.message)
  | .unsupportedVersion version =>
      some ("Unsupported schema version '" ++ version ++ "' (only Swagger 2.0 is supported)")
  | .unknownPlacement operation parameter placement =>
      some ("Operation '" ++ operation ++ "': parameter '" ++ parameter
        ++ "' has unknown location '" ++ placement ++ "'")
  | .unresolvedReference reference =>
      some ("Unresolvable parameter reference '" ++ reference ++ "'")
  | .duplicateOperation operation => some ("Duplicate operation name '" ++ operation ++ "'")
  | .duplicateParameter operation parameter =>
      some ("Operation '" ++ operation ++ "': duplicate parameter '" ++ parameter ++ "'")
  | .conflictingBody operation conflict =>
      some ("Operation '" ++ operation ++ "': " ++ conflict.message)
  | .unresolvedPlaceholder operation path placeholder =>
      some ("Operation '" ++ operation ++ "': path placeholder '\x7b" ++ placeholder
        ++ "\x7d' in '" ++ path ++ "' is not declared as a path parameter")
  | .unusedPathParameter operation path parameter =>
      some ("Operation '" ++ operation ++ "': path parameter '" ++ parameter
        ++ "' does not appear in '" ++ path ++ "'")

end ServiceCatalog
