import ServiceCatalog.Files.Access
import ServiceCatalog.Generation.ClientSource
import ServiceCatalog.Generation.Documentation
import ServiceCatalog.Generation.Names
import ServiceCatalog.Source.Names
import ServiceCatalog.Source.Printer

/-!
# The generated package

The sources of the package are two files.  The module holds the documentation, the function that
builds the catalog, the parameter structures in catalog order, and the client.  The root file
declares the module and passes its names on.

A tree with a word that no source can hold is refused before anything else, and then one that
gives something a reserved word as its name.

The files are written one after the other, each as a whole.  A file that cannot be written ends the
generation with an error that names its path.
-/

namespace ServiceCatalog.Generation

set_option autoImplicit false

open Source

/-! ## Files -/

/-- The parameter structures of all operations. -/
def allParamsItems (catalog : Catalog) (suffix : String) : List Item :=
  catalog.operations.flatMap fun operation => paramsItems operation suffix

/-- What the module imports. -/
def moduleImports : List Item := [
  .imports false ["std", "sync"] (.name "Arc"),
  .imports false ["apibind_runtime"] (.name "define"),
  .imports false ["apibind_runtime"] (.names ["ApiClient", "Args", "Cache", "CallError",
    "CallOptions", "ConfigError", "Transport"]),
  .imports false ["serde", "de"] (.name "DeserializeOwned")]

/-- The module of the client. -/
def moduleFile (catalog : Catalog) (names : Names) : File where
  docs := moduleDocs catalog names.clientName names.moduleName names.suffix
  items := moduleImports ++ [.function (catalogFunction catalog)] ++
    allParamsItems catalog names.suffix ++ clientItems catalog names.clientName names.suffix

/-- The root file of the package. -/
def rootFile (catalog : Catalog) (names : Names) : File where
  docs := [" Generated client for " ++ catalog.title ++ ".", "",
    " See [" ++ asCode names.clientName ++ "] for the operations and ["
      ++ asCode (names.moduleName ++ "::catalog") ++ "] for the bound descriptors."]
  items := [.submodule names.moduleName, .imports true [names.moduleName] .all,
    .imports true ["apibind_runtime"] (.names ["Cache", "CacheOptions", "CallError",
      "CallOptions", "ConfigError", "MemoryCache", "ReqwestTransport", "Transport"])]

/-! ## Checks -/

/-- A file that is a source. -/
def checkFile (file : File) : Except GenerationError File :=
  match file.impossibleName?, file.reservedName? with
  | some name, _ => .error (.impossibleName name)
  | none, some name => .error (.reservedName name)
  | none, none => .ok file

/-! ## The package -/

/-- The sources of a package. -/
structure Package where
  root : File
  moduleFileName : String
  client : File
  deriving Repr

/-- Generates the sources for a catalog. -/
def generate (catalog : Catalog) (settings : Settings) : Except GenerationError Package := do
  let names ← Names.resolve catalog settings
  let root ← checkFile (rootFile catalog names)
  let client ← checkFile (moduleFile catalog names)
  return ⟨root, names.moduleName ++ ".rs", client⟩

/-! ## Writing -/

/-- The name of the root file of a package. -/
def rootFileName : String := "lib.rs"

/-- The source files of a package with their names. -/
def Package.sources (package : Package) : List (String × String) :=
  [(rootFileName, package.root.text), (package.moduleFileName, package.client.text)]

section Writing

variable {m : Type → Type} [Monad m] [FileAccess m]

/-- Writes a file as a whole. -/
def writeFile (path content : String) : ExceptT GenerationError m Unit :=
  ExceptT.adapt (fun failure => .unwritable failure.path failure.cause)
    (ExceptT.mk (writeWhole path content))

/-- Writes the source files of a package into a directory. -/
def Package.write (package : Package) (directory : String) : ExceptT GenerationError m Unit :=
  package.sources.forM fun (name, text) => writeFile (Path.below directory name) text

end Writing

end ServiceCatalog.Generation
