import ServiceCatalog.Generation.Package
import ServiceCatalog.Text.Printable

/-!
# The manifest of the generated package

The manifest names the package and what it depends on.  The runtime library is taken from a local
path if one is given, and from the registry otherwise.  The package is a workspace of its own, so
it builds wherever it is put.
-/

namespace ServiceCatalog.Generation

set_option autoImplicit false

/-- The version of the runtime library in the registry. -/
def runtimeVersion : String := "0.1"

/-- Where the runtime library is taken from. -/
def runtimeSource (settings : Settings) : String :=
  match settings.runtimePath with
  | some path => "\x7b path = " ++ Text.quoted path ++ " \x7d"
  | none => Text.quoted runtimeVersion

/-- The lines of the manifest. -/
def manifestLines (settings : Settings) : List String := [
  "[package]",
  "name = \"" ++ settings.packageName ++ "\"",
  "version = \"0.1.0\"",
  "edition = \"2024\"",
  "description = \"Generated API client\"",
  "",
  "[workspace]",
  "",
  "[dependencies]",
  "apibind-runtime = " ++ runtimeSource settings,
  "serde = \"1.0\"",
  "serde_json = \"1.0\""]

/-- The manifest. -/
def manifest (settings : Settings) : String :=
  String.join ((manifestLines settings).map (· ++ "\n"))

/-- The name of the manifest of a package. -/
def manifestName : String := "Cargo.toml"

/-- Writes the manifest into a directory. -/
def writeManifest {m : Type → Type} [Monad m] [FileAccess m] (settings : Settings)
    (directory : String) : ExceptT GenerationError m Unit :=
  writeFile (Path.below directory manifestName) (manifest settings)

end ServiceCatalog.Generation
