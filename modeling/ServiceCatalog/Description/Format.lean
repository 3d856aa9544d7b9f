import ServiceCatalog.Description.Loading
import ServiceCatalog.Files.Path
import ServiceCatalog.Json.Parser
import ServiceCatalog.Yaml.Resolution

/-!
# The two formats of descriptions

A description is a text in JSON or in YAML.  The extension of a path tells which: `yaml` and
`yml`, in letters of either case, name the one, and everything else the other.
-/

namespace ServiceCatalog.Description

set_option autoImplicit false

/-- The format of a description. -/
inductive Format where
  | json
  | yaml
  deriving DecidableEq, Repr

namespace Format

/-- The format that the extension of a path names. -/
def ofPath (path : String) : Format :=
  match Path.extension? path with
  | some extension =>
      if ["yaml", "yml"].contains (extension.map Char.toLower) then .yaml else .json
  | none => .json

/-- The value that a text writes in a format. -/
def parse (format : Format) (text : String) : Except CatalogError Json.Value :=
  match format with
  | .json => (Json.parse? text).elim (.error .notJson) .ok
  | .yaml => (Yaml.parse? text).elim (.error .notYaml) .ok

end Format

/-- The catalog of a description in a format. -/
def loadText (format : Format) (text : String) : Except CatalogError Catalog := do
  load (← format.parse text)

end ServiceCatalog.Description
