import ServiceCatalog.CommandLine.Run

/-!
# The program

The command on the files of the system.
-/

namespace ServiceCatalog

set_option autoImplicit false

/-- The cause of an error of the system. -/
def FileError.ofSystem : IO.Error → FileError
  | .noFileOrDirectory _ _ _ => .notFound
  | .alreadyExists _ _ _ => .alreadyExists
  | .inappropriateType _ code _ => if code = 20 then .notDirectory else .isDirectory
  | .resourceBusy _ _ => .busy
  | error => .other error.toString

/-- Runs an action on a file and keeps its error. -/
def onFile {α : Type} (action : IO α) : IO (Except FileError α) := do
  match ← action.toBaseIO with
  | .ok result => return .ok result
  | .error error => return .error (.ofSystem error)

instance : FileAccess IO where
  read path := do
    return (← onFile (IO.FS.readBinFile path)).map fun content => content.toList
  isDirectory path := do
    match ← onFile (IO.FS.createDir (path ++ "/.")) with
    | .error .alreadyExists => return true
    | _ => return false
  makeDirectory path := onFile (IO.FS.createDir path)
  write path content := onFile (IO.FS.writeBinFile path (ByteArray.mk content.toArray))
  rename source target := onFile (IO.FS.rename source target)

end ServiceCatalog

/-- Runs the command. -/
def main (arguments : List String) : IO UInt32 := do
  let outcome ← ServiceCatalog.CommandLine.run (m := IO) arguments
  IO.print outcome.output
  IO.eprint outcome.complaint
  return outcome.status.toUInt32
