import ServiceCatalog.Text.Blank

/-!
# Paths as texts

A path is a text with slashes between its segments.  An empty segment and a segment `.` say
nothing, except that the first segment may be `.` for the place itself, or empty for the root.
The parent of a path is the text before its last segment, the name is the last segment unless
that points upwards, and the extension is what stands behind the last full stop of the name,
unless the name begins with it.
-/

namespace ServiceCatalog.Path

set_option autoImplicit false

/-- The segments of a path. -/
def segments (path : String) : List (List Char) :=
  Text.splitWhen (· == '/') path.toList

/-- A segment that says nothing. -/
def isIdle (segment : List Char) : Bool := segment.isEmpty || segment == ['.']

/-- Segments without those at the end that say nothing; the first one stays. -/
def trimmed : List (List Char) → List (List Char)
  | [] => []
  | first :: rest => first :: Text.dropEndWhile isIdle rest

/-- Segments with slashes between them. -/
def joined (parts : List (List Char)) : String :=
  if parts = [[]] then "/" else String.ofList (List.intercalate ['/'] parts)

/-- The path before the last segment, if there is one. -/
def parent? (path : String) : Option String :=
  match trimmed (segments path) with
  | [] | [[]] => none
  | [_] => some ""
  | parts => some (joined (trimmed parts.dropLast))

/-- The last segment, unless it points upwards or to the place itself. -/
def name? (path : String) : Option (List Char) :=
  ((trimmed (segments path)).getLast?).filter fun segment =>
    !isIdle segment && segment != "..".toList

/-- A name cut at its last full stop, unless it begins with that. -/
def cutName (name : List Char) : List Char × Option (List Char) :=
  match name.reverse.span (· != '.') with
  | (_, []) => (name, none)
  | (_, [_]) => (name, none)
  | (back, _ :: front) => (front.reverse, some back.reverse)

/-- The extension of a path. -/
def extension? (path : String) : Option String :=
  (name? path).bind fun name => (cutName name).2.map String.ofList

/-- A path with another extension of its name; a path without a name stays as it is. -/
def withExtension (extension path : String) : String :=
  match name? path with
  | none => path
  | some name =>
      joined ((trimmed (segments path)).dropLast
        ++ [(cutName name).1 ++ '.' :: extension.toList])

/-- A path below another one. -/
def below (path name : String) : String :=
  if path.isEmpty then name
  else if path.toList.getLast? = some '/' then path ++ name
  else path ++ "/" ++ name

end ServiceCatalog.Path
