import ServiceCatalog.Builtin.Rules
import ServiceCatalog.Description.Format
import ServiceCatalog.Files.Access
import ServiceCatalog.Generation.Error
import ServiceCatalog.Generation.Naming

/-!
# What a client is generated from

A client is generated from a catalog and from settings.  The catalog is known by name, or it is that
of a description in a file, in the format that the path of the file names.

Every setting has a default, and the names of the client and its module follow from the title of
the catalog unless they are given.  Given or not, a client name begins with a capital letter and
holds letters and digits of the basic range, and a module name begins with a small letter and
holds small letters, digits and underscores; neither is a keyword.
-/

namespace ServiceCatalog.Generation

set_option autoImplicit false

/-! ## Catalogs -/

/-- The catalog that is known by a name. -/
def findBuiltin (name : String) : Except GenerationError Catalog :=
  match Builtin.find? name with
  | some catalog => .ok catalog
  | none => .error (.settings (.unknownBuiltin name Builtin.names))

section Reading

variable {m : Type → Type} [Monad m] [FileAccess m]

/-- The text of a file. -/
def readText (path : String) : ExceptT FileError m String := do
  match Text.decode? (← ExceptT.mk (FileAccess.read path)) with
  | some characters => return String.ofList characters
  | none => throw .notUtf8

/-- The catalog of the description in a file. -/
def readDescription (path : String) : ExceptT GenerationError m Catalog := do
  let text ← ExceptT.adapt (.unreadable path) (readText (m := m) path)
  ExceptT.mk (pure ((Description.loadText (.ofPath path) text).mapError .description))

end Reading

/-! ## Settings -/

/-- The settings of a generation. -/
structure Settings where
  clientName : Option String
  moduleName : Option String
  paramsSuffix : String
  packageName : String
  runtimePath : Option String
  deriving DecidableEq, Repr

namespace Settings

/-- The suffix of parameter structures if none is given. -/
def standardSuffix : String := "Params"

/-- The name of the generated package if none is given. -/
def standardPackageName : String := "apibind-client"

/-- The settings when nothing is given. -/
def standard : Settings := ⟨none, none, standardSuffix, standardPackageName, none⟩

/-! ## Rules on names -/

/-- A letter or digit of the basic range. -/
def isPlainChar (character : Char) : Bool := character.isAlphanum

/-- A name for a client. -/
def isTypeName (name : String) : Bool :=
  name.toList.head?.any Char.isUpper && name.toList.all isPlainChar && !isKeyword name

/-- A name for a module. -/
def isModuleName (name : String) : Bool :=
  name.toList.head?.any Char.isLower
    && name.toList.all (fun character =>
      character.isLower || character.isDigit || character == '_')
    && !isKeyword name

/-- A name for a package. -/
def isPackageName (name : String) : Bool :=
  !name.isEmpty && name.toList.all fun character =>
    isPlainChar character || character == '-' || character == '_'

/-- A suffix of parameter structures holds letters and digits, and at least one. -/
def checkSuffix (suffix : String) : Except GenerationError Unit :=
  if suffix.isEmpty then .error (.badSuffix suffix .empty)
  else if suffix.toList.all isPlainChar then .ok ()
  else .error (.badSuffix suffix .notAlphanumeric)

/-- Checks a rule, with the fault if it is broken. -/
def require (rule : Bool) (fault : SettingsFault) : Except GenerationError Unit :=
  if rule then .ok () else .error (.settings fault)

/-- Checks the settings that are given. -/
def validate (settings : Settings) : Except GenerationError Unit := do
  checkSuffix settings.paramsSuffix
  match settings.clientName with
  | some name => require (isTypeName name) (.badClientName name)
  | none => pure ()
  match settings.moduleName with
  | some name => require (isModuleName name) (.badModuleName name)
  | none => pure ()
  require (isPackageName settings.packageName) (.badPackageName settings.packageName)

/-! ## Names that follow from the title -/

/-- The name of the client of a catalog. -/
def resolveClientName (settings : Settings) (catalog : Catalog) :
    Except GenerationError String := do
  let name := settings.clientName.getD (Text.pascalCase catalog.title)
  require (isTypeName name) (.noClientName catalog.title)
  return name

/-- The name of the module of a catalog. -/
def resolveModuleName (settings : Settings) (catalog : Catalog) :
    Except GenerationError String := do
  let name := settings.moduleName.getD (Text.snakeCase catalog.title)
  require (isModuleName name) (.noModuleName catalog.title)
  return name

end Settings

end ServiceCatalog.Generation
