import ServiceCatalog.Files.Tree

/-!
# Access to files

What a program asks of a file system: to read a file, to make a directory, to write a file and to
move one.  A `FileTree` that is carried along answers these questions without a disk, so that
what a program does to files is a function.

Two ways of using them are built on top: `makeDirectories` makes a directory with all that are
missing above it, and `writeWhole` writes a file beside its place and then moves it there, so that
nobody sees half of it.
-/

namespace ServiceCatalog

set_option autoImplicit false

/-- Access to files from a program. -/
class FileAccess (m : Type → Type) where
  read : String → m (Except FileError (List UInt8))
  isDirectory : String → m Bool
  makeDirectory : String → m (Except FileError Unit)
  write : String → List UInt8 → m (Except FileError Unit)
  rename : String → String → m (Except FileError Unit)

/-- A program that runs on a file tree. -/
abbrev OnTree := StateM FileTree

/-- Keeps the tree that an operation leaves; one that fails leaves it as it was. -/
def OnTree.change (operation : FileTree → Except FileError FileTree) :
    OnTree (Except FileError Unit) := fun tree =>
  match operation tree with
  | .ok tree => (.ok (), tree)
  | .error cause => (.error cause, tree)

instance : FileAccess OnTree where
  read path := fun tree => (tree.read path, tree)
  isDirectory path := fun tree => (tree.isDirectory path, tree)
  makeDirectory path := OnTree.change (FileTree.makeDirectory path)
  write path content := OnTree.change (FileTree.write path content)
  rename source target := OnTree.change (FileTree.rename source target)

variable {m : Type → Type} [Monad m] [FileAccess m]

/-! ## Directories -/

/-- Makes a directory unless it is there. -/
def ensureDirectory (path : String) : m (Except FileError Unit) := do
  match ← FileAccess.makeDirectory path with
  | .ok _ => return .ok ()
  | .error cause => if ← FileAccess.isDirectory path then return .ok () else return .error cause

/-- Makes a directory with those above it, at most `depth` of them. -/
def makeDirectoriesFrom : Nat → String → m (Except FileError Unit)
  | 0, path => ensureDirectory path
  | depth + 1, path => do
      if path.isEmpty then return .ok ()
      match ← FileAccess.makeDirectory path with
      | .ok _ => return .ok ()
      | .error .notFound =>
          match Path.parent? path with
          | none => return .error .notFound
          | some above =>
              match ← makeDirectoriesFrom depth above with
              | .ok _ => ensureDirectory path
              | .error cause => return .error cause
      | .error cause =>
          if ← FileAccess.isDirectory path then return .ok () else return .error cause

/-- Makes a directory with those above it. -/
def makeDirectories (path : String) : m (Except FileError Unit) :=
  makeDirectoriesFrom path.length path

/-! ## Files -/

/-- A path at which writing failed, and why. -/
structure WriteFailure where
  path : String
  cause : FileError
  deriving DecidableEq, Repr

/-- The path beside a path at which its content is written first. -/
def besidePath (path : String) : String := Path.withExtension "tmp" path

/-- Names the path of a failure. -/
def failingAt (path : String) (result : Except FileError Unit) : Except WriteFailure Unit :=
  result.mapError (⟨path, ·⟩)

/-- Makes the directory that a file is to be in. -/
def makeParent (path : String) : m (Except WriteFailure Unit) :=
  match Path.parent? path with
  | none => return .ok ()
  | some parent => do
      if parent.isEmpty then return .ok ()
      return failingAt parent (← makeDirectories parent)

/-- Writes a file as a whole. -/
def writeWhole (path content : String) : m (Except WriteFailure Unit) := do
  match ← makeParent path with
  | .error failure => return .error failure
  | .ok _ =>
      let beside := besidePath path
      match ← FileAccess.write beside (Text.encode content.toList) with
      | .error cause => return .error ⟨beside, cause⟩
      | .ok _ => return failingAt path (← FileAccess.rename beside path)

end ServiceCatalog
