import ServiceCatalog.Association
import ServiceCatalog.Files.Path
import ServiceCatalog.Text.Utf8

/-!
# File trees

A file tree gives contents to places.  A place is a list of names, from the working directory
down; what is there is a directory or a file of octets.

A path is walked one segment after the other.  Every segment but the last needs a directory before
it, whatever it says; two full stops lead upwards, and the working directory is above itself.

An operation that the tree refuses names its cause, in the wording of the system.
-/

namespace ServiceCatalog

set_option autoImplicit false

/-! ## What is refused -/

/-- Why an operation on a file failed. -/
inductive FileError where
  | notFound
  | alreadyExists
  | notDirectory
  | isDirectory
  | busy
  | nameTooLong
  | nulInName
  | notUtf8
  | other (text : String)
  deriving DecidableEq, Repr

/-- The wording of a file error. -/
def FileError.message : FileError → String
  | .notFound => "No such file or directory (os error 2)"
  | .alreadyExists => "File exists (os error 17)"
  | .notDirectory => "Not a directory (os error 20)"
  | .isDirectory => "Is a directory (os error 21)"
  | .busy => "Device or resource busy (os error 16)"
  | .nameTooLong => "File name too long (os error 36)"
  | .nulInName => "file name contained an unexpected NUL byte"
  | .notUtf8 => "stream did not contain valid UTF-8"
  | .other text => text

/-! ## Trees -/

/-- What is at a place. -/
inductive FileNode where
  | directory
  | file (content : List UInt8)
  deriving DecidableEq, Repr

/-- A place: the names from the working directory down. -/
abbrev Place := List String

/-- A file tree. -/
structure FileTree where
  nodes : List (Place × FileNode)
  deriving Repr

namespace FileTree

/-- A working directory with nothing in it. -/
def empty : FileTree := ⟨[]⟩

/-! ## Places -/

/-- What is at a place; the working directory is always there. -/
def node? (tree : FileTree) (place : Place) : Option FileNode :=
  if place.isEmpty then some .directory else tree.nodes.lookup place

/-- There is a directory at a place. -/
def isDirectoryAt (tree : FileTree) (place : Place) : Bool :=
  tree.node? place == some .directory

/-- Puts something at a place. -/
def set (place : Place) (node : FileNode) (tree : FileTree) : FileTree :=
  ⟨assign place node tree.nodes⟩

/-- Takes a place away. -/
def clear (place : Place) (tree : FileTree) : FileTree := ⟨unassign place tree.nodes⟩

/-! ## Walking -/

/-- A name that is too long for a file system, in octets. -/
def isTooLong (name : List Char) : Bool := 255 < (String.ofList name).utf8ByteSize

/-- Walks along segments from a place. -/
def walk (tree : FileTree) : Place → List (List Char) → Except FileError Place
  | place, [] => .ok place
  | place, segment :: rest =>
      if !tree.isDirectoryAt place then .error .notDirectory
      else if Path.isIdle segment then tree.walk place rest
      else if segment = "..".toList then tree.walk place.dropLast rest
      else if isTooLong segment then .error .nameTooLong
      else
        let next := place ++ [String.ofList segment]
        if (tree.node? next).isSome then tree.walk next rest else .error .notFound

/-- A path that can be walked: it is not empty and holds no null character. -/
def segmentsOf (path : String) : Except FileError (List (List Char)) :=
  if path.isEmpty then .error .notFound
  else if path.toList.contains '\x00' then .error .nulInName
  else .ok (Path.segments path)

/-- The place that a path leads to. -/
def locate (tree : FileTree) (path : String) : Except FileError Place := do
  tree.walk [] (← segmentsOf path)

/-- The directory and the name that a path leads to, whether or not there is something; or `none`
if the last segment is no name. -/
def locateNew (tree : FileTree) (segments : List (List Char)) :
    Except FileError (Place × Option String) := do
  let place ← tree.walk [] segments.dropLast
  if !tree.isDirectoryAt place then throw .notDirectory
  match segments.getLast? with
  | none => return (place, none)
  | some segment =>
      if Path.isIdle segment || segment == "..".toList then return (place, none)
      else if isTooLong segment then throw .nameTooLong
      else return (place, some (String.ofList segment))

/-! ## Operations -/

/-- The content of a file. -/
def read (path : String) (tree : FileTree) : Except FileError (List UInt8) := do
  match tree.node? (← tree.locate path) with
  | some (.file content) => return content
  | some .directory => throw .isDirectory
  | none => throw .notFound

/-- A path leads to a directory. -/
def isDirectory (path : String) (tree : FileTree) : Bool :=
  match tree.locate path with
  | .ok place => tree.isDirectoryAt place
  | .error _ => false

/-- Makes a directory. -/
def makeDirectory (path : String) (tree : FileTree) : Except FileError FileTree := do
  let segments := Text.dropEndWhile List.isEmpty (← segmentsOf path)
  match ← tree.locateNew segments with
  | (_, none) => throw .alreadyExists
  | (place, some name) =>
      let place := place ++ [name]
      if (tree.node? place).isSome then throw .alreadyExists
      else return tree.set place .directory

/-- Writes a file, in place of what it held.

A file is written whole or not at all.  A write that is broken off half-way, since the disk is full
or the process ends, leaves part of the content behind; that is outside this tree. -/
def write (path : String) (content : List UInt8) (tree : FileTree) :
    Except FileError FileTree := do
  match ← tree.locateNew (← segmentsOf path) with
  | (_, none) => throw .isDirectory
  | (place, some name) =>
      let place := place ++ [name]
      if tree.isDirectoryAt place then throw .isDirectory
      else return tree.set place (.file content)

/-- Moves a file, in place of the one that is there.  A slash at the end asks for a directory. -/
def rename (source target : String) (tree : FileTree) : Except FileError FileTree := do
  let old ← tree.locate source
  let segments ← segmentsOf target
  let named := Text.dropEndWhile List.isEmpty segments
  match tree.node? old, ← tree.locateNew named with
  | some (.file content), (place, some name) =>
      let new := place ++ [name]
      if named.length < segments.length then throw .notDirectory
      else if tree.isDirectoryAt new then throw .isDirectory
      else if new = old then return tree
      else return (tree.clear old).set new (.file content)
  | some (.file _), (_, none) => throw .busy
  | _, _ => throw .notFound

/-! ## Building and comparing -/

/-- Puts a file at a place, with directories above it. -/
def withFile (path : String) (content : List UInt8) (tree : FileTree) : FileTree :=
  let place := ((Path.segments path).filter (!Path.isIdle ·)).map String.ofList
  let above := (List.range place.length).map place.take
  let tree := above.foldl (fun tree place =>
    if tree.isDirectoryAt place then tree else tree.set place .directory) tree
  tree.set place (.file content)

/-- The files that are not, or not with this content, in an earlier tree. -/
def changesSince (tree earlier : FileTree) : List (String × List UInt8) :=
  tree.nodes.filterMap fun (place, node) =>
    match node with
    | .directory => none
    | .file content =>
        if earlier.node? place = some node then none
        else some ("/".intercalate place, content)

end FileTree

end ServiceCatalog
