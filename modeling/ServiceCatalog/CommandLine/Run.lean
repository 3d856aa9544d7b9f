import ServiceCatalog.CommandLine.Arguments
import ServiceCatalog.Generation.Input
import ServiceCatalog.Generation.Manifest

/-!
# Running the command

The command loads a description, generates the package, and writes its sources into the output
directory and its manifest into the directory above that.  A dry run shows the files instead, each
behind a line with its name.

The command ends with status 0 if it did what it was asked for, 1 if nothing could be generated,
and 2 if the arguments make no command.  A name that no source can hold ends it with status 101.
-/

namespace ServiceCatalog.CommandLine

set_option autoImplicit false

variable {m : Type → Type} [Monad m] [FileAccess m]

/-! ## What a run leaves -/

/-- The status of a run, what it shows, and what it complains about. -/
structure Outcome where
  status : Nat
  output : String
  complaint : String
  deriving DecidableEq, Repr

/-- The name and version of the program. -/
def versionLine : String := "apibind-gen 0.1.0\n"

/-- A line of the help for an option or a switch. -/
def Directive.helpLine (directive : Directive) : String :=
  match directive with
  | .valued option => "  --" ++ option.name ++ " <VALUE>\n"
  | .plain switch => "  --" ++ switch.name ++ "\n"

/-- The help. -/
def helpText : String :=
  "Usage: apibind-gen [OPTIONS]\n\nOptions:\n"
    ++ String.join (Directive.all.map Directive.helpLine)

/-- The status that an error leaves. -/
def errorStatus : GenerationError → Nat
  | .impossibleName _ => 101
  | _ => 1

/-- What is left when arguments make no command or ask for no generation. -/
def Stop.outcome : Stop → Outcome
  | .fault cause => ⟨2, "", "error: " ++ cause.message ++ "\n"⟩
  | .help => ⟨0, helpText, ""⟩
  | .version => ⟨0, versionLine, ""⟩

/-- What is left of a generation that fails. -/
def errorOutcome (error : GenerationError) : Outcome :=
  ⟨errorStatus error, "", "Error: " ++ error.message?.getD "no client was generated" ++ "\n"⟩

/-! ## The run -/

/-- A file as a dry run shows it. -/
def shownFile (file : String × String) : String :=
  "=== " ++ file.1 ++ " ===\n" ++ file.2 ++ "\n\n"

/-- The directory of the manifest: the one above the sources. -/
def packageDirectory (output : String) : String :=
  match Path.parent? output with
  | some parent => if parent.isEmpty then "." else parent
  | none => "."

/-- The catalog of a description. -/
def DescriptionSource.catalog : DescriptionSource → ExceptT GenerationError m Catalog
  | .file path => Generation.readDescription path
  | .builtin name => ExceptT.mk (pure (Generation.findBuiltin name))

/-- Runs a command, and answers with what it shows. -/
def Command.run (command : Command) : ExceptT GenerationError m String := do
  let catalog ← command.source.catalog
  let package ← ExceptT.mk (pure (Generation.generate catalog command.settings))
  if command.dryRun then
    let manifest := (Generation.manifestName, Generation.manifest command.settings)
    return String.join ((package.sources ++ [manifest]).map shownFile)
  else
    package.write command.output
    Generation.writeManifest command.settings (packageDirectory command.output)
    return ""

/-- Runs the command that arguments ask for. -/
def run (arguments : List String) : m Outcome := do
  match readCommand arguments with
  | .error stop => return stop.outcome
  | .ok command =>
      match ← command.run.run with
      | .ok output => return ⟨0, output, ""⟩
      | .error error => return errorOutcome error

end ServiceCatalog.CommandLine
