import ServiceCatalog.Association
import ServiceCatalog.Catalog.Validity
import ServiceCatalog.Generation.Input

/-!
# The names of one generation

Different names of a description may become one name of the generated source.  Within an
operation this is checked for the fields, and over all operations for the methods, which must also
differ from the methods that every client has, and for the parameter structures, which must also
differ from the structure of the client.

The operations are gone through in order.  In each, fields are checked before the method and the
method before the structure, and the first clash is reported together with what holds the name
already.
-/

namespace ServiceCatalog.Generation

set_option autoImplicit false

/-! ## Clashes -/

/-- Names that are taken, with their owners. -/
abbrev TakenNames := List (String × NameOwner)

/-- Takes a name for an owner, or reports who has it. -/
def takeName (operation name : String) (owner : NameOwner) (taken : TakenNames) :
    Except GenerationError TakenNames :=
  match taken.lookup name with
  | some holder => .error (.collision operation name holder)
  | none => .ok (taken ++ [(name, owner)])

/-- The methods that every client has. -/
def clientMethods : List String := ["new", "with_base_url", "with_cache", "client"]

/-- Checks that the fields of an operation have different names. -/
def checkFields (operation : Operation) : Except GenerationError Unit := do
  let _ ← operation.parameters.foldlM (fun taken parameter =>
    takeName operation.name (fieldName parameter.name) (.parameter parameter.name) taken) []

/-- Takes the names of an operation: those of methods and those of structures. -/
def takeOperation (suffix : String) (taken : TakenNames × TakenNames) (operation : Operation) :
    Except GenerationError (TakenNames × TakenNames) := do
  checkFields operation
  let owner := NameOwner.operation operation.name
  let methods ← takeName operation.name (methodName operation.name) owner taken.1
  let structs ← takeName operation.name (structName operation.name suffix) owner taken.2
  return (methods, structs)

/-- Checks that no two names become one. -/
def checkCollisions (catalog : Catalog) (client suffix : String) :
    Except GenerationError Unit := do
  let methods : TakenNames := clientMethods.map fun name => (name, .client)
  let structs : TakenNames := [(client, .clientStruct)]
  let _ ← catalog.operations.foldlM (takeOperation suffix) (methods, structs)

/-! ## Resolution -/

/-- The names of one generation. -/
structure Names where
  clientName : String
  moduleName : String
  suffix : String
  deriving DecidableEq, Repr

/-- Resolves and checks the names: first the settings, then the catalog, then the names that
follow from the title, then clashes. -/
def Names.resolve (catalog : Catalog) (settings : Settings) : Except GenerationError Names := do
  settings.validate
  catalog.validate.mapError .description
  let clientName ← settings.resolveClientName catalog
  let moduleName ← settings.resolveModuleName catalog
  checkCollisions catalog clientName settings.paramsSuffix
  return ⟨clientName, moduleName, settings.paramsSuffix⟩

end ServiceCatalog.Generation
