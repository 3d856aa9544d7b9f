import ServiceCatalog.Catalog.Error
import ServiceCatalog.Files.Tree

/-!
# Why no client is generated

Generating a client can fail at each of its stages: the description gives no catalog, the
settings are unusable, two names of the description become one name of the generated source, a
name cannot stand in a source at all, or a file cannot be read or written.
-/

namespace ServiceCatalog

set_option autoImplicit false

/-- What is wrong with the settings. -/
inductive SettingsFault where
  | unknownBuiltin (name : String) (known : List String)
  | badClientName (name : String)
  | badModuleName (name : String)
  | badPackageName (name : String)
  | noClientName (title : String)
  | noModuleName (title : String)
  deriving DecidableEq, Repr

/-- What is wrong with the suffix of parameter structures. -/
inductive SuffixFault where
  | empty
  | notAlphanumeric
  deriving DecidableEq, Repr

/-- What a name of the generated source stands for. -/
inductive NameOwner where
  | client
  | clientStruct
  | operation (name : String)
  | parameter (name : String)
  deriving DecidableEq, Repr

/-- Why no client is generated. -/
inductive GenerationError where
  | description (cause : CatalogError)
  | settings (fault : SettingsFault)
  | badSuffix (suffix : String) (fault : SuffixFault)
  | collision (operation name : String) (owner : NameOwner)
  | impossibleName (name : String)
  | reservedName (name : String)
  | unreadable (path : String) (cause : FileError)
  | unwritable (path : String) (cause : FileError)
  deriving DecidableEq, Repr

/-- The wording of a fault in the settings. -/
def SettingsFault.message : SettingsFault → String
  | .unknownBuiltin name known =>
      "Unknown API: '" ++ name ++ "'. Available APIs: " ++ ", ".intercalate known
  | .badClientName name =>
      "client name '" ++ name ++ "' must start with an uppercase letter and be alphanumeric"
  | .badModuleName name =>
      "module name '" ++ name ++ "' must be a lowercase snake_case identifier"
  | .badPackageName name =>
      "crate name '" ++ name ++ "' may only contain letters, digits, '-' and '_'"
  | .noClientName title =>
      "cannot derive a client name from title '" ++ title ++ "'; pass --client-name"
  | .noModuleName title =>
      "cannot derive a module name from title '" ++ title ++ "'; pass --module"

/-- The wording of a fault in the suffix. -/
def SuffixFault.message : SuffixFault → String
  | .empty => "suffix cannot be empty"
  | .notAlphanumeric => "suffix must contain only letters and digits"

/-- The wording of an owner. -/
def NameOwner.message : NameOwner → String
  | .client => "the client itself"
  | .clientStruct => "the client struct"
  | .operation name => "operation '" ++ name ++ "'"
  | .parameter name => "parameter '" ++ name ++ "'"

/-- The wording of an error, for those that have one. -/
def GenerationError.message? : GenerationError → Option String
  | .description cause => cause.message?.map fun text => "Invalid API description: " ++ text
  | .settings fault => some ("Invalid configuration: " ++ fault.message)
  | .badSuffix suffix fault =>
      some ("Invalid params suffix '" ++ suffix ++ "': " ++ fault.message)
  | .collision operation name owner =>
      some ("Naming collision in '" ++ operation ++ "': '" ++ name
        ++ "' is already generated for " ++ owner.message)
  | .impossibleName _ => none
  | .reservedName name =>
      some ("Code generation failed: Generated code is invalid: expected identifier, "
        ++ "found keyword \x60" ++ name ++ "\x60")
  | .unreadable path cause =>
      some ("Failed to read schema file '" ++ path ++ "': " ++ cause.message)
  | .unwritable path cause =>
      some ("Failed to write output file '" ++ path ++ "': " ++ cause.message)

end ServiceCatalog
