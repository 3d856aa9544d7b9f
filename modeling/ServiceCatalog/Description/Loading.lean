import ServiceCatalog.Catalog.Basic
import ServiceCatalog.Catalog.Naming
import ServiceCatalog.Catalog.Validity
import ServiceCatalog.Description.Document

/-!
# From a description to a catalog

A document is loaded in one go: it gives a whole, consistent catalog or an error, and the error
is the first one on the way through the document.

* The version is looked at before anything else.
* The path items are read in order, and the operations of a path item in order.  A member
  of a path item is an operation unless it is the list of shared parameters, a reference, or an
  extension whose name begins with `x-`.
* The parameters of an operation are those of its path item, followed by its own.  An own
  parameter with the name and placement of an inherited one takes its place; apart from that, no
  two parameters of an operation may agree in both (`Merge`).
* A parameter may be a reference to one of the shared definitions of the document.
* Last, the rules for consistent catalogs are checked.
-/

namespace ServiceCatalog.Description

set_option autoImplicit false

open ServiceCatalog.Json

/-- Reads a part of the document at a location. -/
def readAt {α : Type} (location : String) (decoder : Decoder α) (value : Value) :
    Except CatalogError α :=
  (decoder value).mapError fun cause => .malformed location (.mismatch cause)

/-- A field that a catalog cannot do without. -/
def demand {α : Type} (location name : String) : Option α → Except CatalogError α
  | some value => .ok value
  | none => .error (.malformed location (.missingField name))

/-! ## Parameters -/

/-- What every reference to a shared parameter begins with. -/
def referenceStart : String := "#/parameters/"

/-- The shared definition that a reference names. -/
def referred? (shared : List (String × Value)) (reference : String) : Option Value :=
  if referenceStart.toList.isPrefixOf reference.toList then
    shared.lookup (String.ofList (reference.toList.drop referenceStart.length))
  else none

/-- The definition of a parameter: the shared one it refers to, or itself. -/
def definition (shared : List (String × Value)) (written : Value) : Except CatalogError Value :=
  match (written.member? "$ref").bind Value.text? with
  | some reference =>
      match referred? shared reference with
      | some value => .ok value
      | none => .error (.unresolvedReference reference)
  | none => .ok written

/-- The format of lists that a parameter declares. -/
def declaredFormat (location : String) : Option String → Except CatalogError CollectionFormat
  | none => .ok .standard
  | some text =>
      match CollectionFormat.ofText? text with
      | some format => .ok format
      | none => .error (.malformed location (.unknownCollectionFormat text))

/-- The placement that a parameter declares. -/
def declaredPlacement (operation parameter text : String) : Except CatalogError Placement :=
  match Placement.ofText? text with
  | some placement => .ok placement
  | none => .error (.unknownPlacement operation parameter text)

/-- The kind of value of a parameter: any value in the body, elsewhere the declared one. -/
def declaredKind (placement : Placement) (written : WrittenParameter) : ValueKind :=
  if placement = .body then .json
  else ValueKind.ofDeclared written.type (written.items.bind Items.type)

/-- The parameter that a definition describes. -/
def describedParameter (operation location : String) (written : WrittenParameter) :
    Except CatalogError Parameter := do
  let name ← demand location "name" written.name
  let placementText ← demand location "in" written.placement
  let placement ← declaredPlacement operation name placementText
  let format ← declaredFormat location written.collectionFormat
  let parameter := (Parameter.declare name placement).withRequired written.required
    |>.withKind (declaredKind placement written) |>.withCollectionFormat format
  return { parameter with description := written.description }

/-- Reads a parameter of an operation. -/
def loadParameter (operation : String) (shared : List (String × Value)) (location : String)
    (written : Value) : Except CatalogError Parameter := do
  let resolved ← definition shared written
  describedParameter operation location (← readAt location WrittenParameter.decoder resolved)

/-! ## Merging the parameters of path item and operation -/

/-- The parameters of an operation while they are put together: those of the path item, some of
them replaced, and the further ones of the operation. -/
structure Merge where
  inherited : List Parameter
  own : List Parameter
  deriving DecidableEq, Repr

/-- A parameter with the key of another is among the parameters. -/
def hasKey (parameters : List Parameter) (parameter : Parameter) : Bool :=
  parameters.any fun other => other.key == parameter.key

/-- Adds a parameter at the end, if no other has its key. -/
def addUnique (operation : String) (parameters : List Parameter) (parameter : Parameter) :
    Except CatalogError (List Parameter) :=
  if hasKey parameters parameter then .error (.duplicateParameter operation parameter.name)
  else .ok (parameters ++ [parameter])

/-- Puts a parameter in the place of the first one with its key. -/
def replaceFirst (parameter : Parameter) : List Parameter → List Parameter
  | [] => []
  | other :: rest =>
      if other.key = parameter.key then parameter :: rest else other :: replaceFirst parameter rest

/-- Adds a parameter of the operation itself. -/
def Merge.addOwn (operation : String) (merge : Merge) (parameter : Parameter) :
    Except CatalogError Merge :=
  if hasKey merge.inherited parameter then
    .ok { merge with inherited := replaceFirst parameter merge.inherited }
  else (addUnique operation merge.own parameter).map fun own => { merge with own := own }

/-- The merged parameters. -/
def Merge.parameters (merge : Merge) : List Parameter := merge.inherited ++ merge.own

/-- Loads the items of a list of parameters one after another and hands each to `add`.
`index` is the position of the next item. -/
def loadInto {σ : Type} (load : Nat → Value → Except CatalogError Parameter)
    (add : σ → Parameter → Except CatalogError σ) :
    Nat → List Value → σ → Except CatalogError σ
  | _, [], gathered => .ok gathered
  | index, written :: rest, gathered => do
      let parameter ← load index written
      loadInto load add (index + 1) rest (← add gathered parameter)

/-- The location of an item of the parameters at a location. -/
def parameterLocation (location : String) (index : Nat) : String :=
  location ++ "/parameters/" ++ Numeric.natText index

/-- The parameters of an operation, given those written in its path item and its own. -/
def loadParameters (operation : String) (shared : List (String × Value))
    (pathLocation : String) (inherited : List Value)
    (operationLocation : String) (own : List Value) : Except CatalogError (List Parameter) := do
  let load (location : String) (index : Nat) : Value → Except CatalogError Parameter :=
    loadParameter operation shared (parameterLocation location index)
  let inherited ← loadInto (load pathLocation) (addUnique operation) 0 inherited []
  let merge ← loadInto (load operationLocation) (Merge.addOwn operation) 0 own ⟨inherited, []⟩
  return merge.parameters

/-! ## Path items -/

/-- A member of a path item that is no operation. -/
def isPassedOver (name : String) : Bool :=
  name == "parameters" || name == "$ref" || "x-".toList.isPrefixOf name.toList

/-- The parameters that a path item shares among its operations. -/
def inheritedParameters (location : String) (members : List (String × Value)) :
    Except CatalogError (List Value) :=
  match members.lookup "parameters" with
  | none => .ok []
  | some (.array parameters) => .ok parameters
  | some _ => .error (.malformed (location ++ "/parameters") .parametersNotArray)

/-- The operation under a member of a path item. -/
def loadOperation (shared : List (String × Value)) (template location : String)
    (inherited : List Value) (name : String) (value : Value) :
    Except CatalogError Operation := do
  let operationLocation := location ++ "/" ++ name
  match Verb.ofText? name with
  | none => .error (.malformed operationLocation (.unknownMember name))
  | some verb => do
      let written ← readAt operationLocation WrittenOperation.decoder value
      let operation := OperationName.choose written.identifier verb template
      let parameters ← loadParameters operation shared location inherited operationLocation
        written.parameters
      let declared := (Operation.declare operation verb template parameters).withDeprecated
        written.deprecated
      return { declared with summary := written.summary, description := written.description }

/-- The members of a path item that are operations. -/
def operationMembers (members : List (String × Value)) : List (String × Value) :=
  members.filter fun member => !isPassedOver member.1

/-- The operations of a path item. -/
def loadPathItem (shared : List (String × Value)) (template : String) (item : Value) :
    Except CatalogError (List Operation) :=
  let location := "/paths/" ++ template
  match item with
  | .object members => do
      let inherited ← inheritedParameters location members
      (operationMembers members).mapM fun (name, value) =>
        loadOperation shared template location inherited name value
  | _ => .error (.malformed location .pathItemNotObject)

/-! ## Documents -/

/-- The version of the dialect that is understood. -/
def dialect : String := "2.0"

/-- Refuses a document of another dialect. -/
def checkDialect (root : Value) : Except CatalogError Unit :=
  match root.member? "openapi" with
  | some version => .error (.unsupportedVersion (versionText version))
  | none =>
      match root.member? "swagger" with
      | none => .error (.malformed "/swagger" (.missingField "swagger"))
      | some version =>
          if versionText version = dialect then .ok ()
          else .error (.unsupportedVersion (versionText version))

/-- The base address of a document that names its host: the first of the schemes, `https` if
there is none, the host, and the base path without slashes at its end. -/
def baseUrl? (document : Document) : Option String :=
  document.host.map fun host =>
    let scheme := (document.schemes.bind List.head?).getD "https"
    let path := Text.dropEndWhile (· == '/') (document.basePath.getD "").toList
    scheme ++ "://" ++ host ++ String.ofList path

/-- The catalog of a document, not yet checked. -/
def assemble (document : Document) : Except CatalogError Catalog := do
  let info ← demand "/info" "info" document.info
  let title ← demand "/info/title" "title" info.title
  let paths ← demand "/paths" "paths" document.paths
  let operations ← paths.mapM fun (template, item) =>
    loadPathItem document.parameters template item
  return {
    title := title
    description := info.description
    version := info.version.map versionText
    baseUrl := baseUrl? document
    operations := operations.flatten }

/-- The catalog of a document. -/
def load (root : Value) : Except CatalogError Catalog := do
  checkDialect root
  let catalog ← assemble (← readAt "/" Document.decoder root)
  catalog.validate
  return catalog

end ServiceCatalog.Description
