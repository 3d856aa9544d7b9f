import ServiceCatalog.Address.Basic

/-!
# Reading addresses

An address is read from left to right: scheme, authority, path, query, fragment.  Controls and
spaces at both ends are passed over, and so are tabs and line ends everywhere.

* Under a web scheme any number of slashes, forward or backward, leads to the authority, which
  must have a host.
* Under the file scheme there may be a host, and a segment that names a drive stays at the front.
* Under any other scheme two slashes lead to an authority, one slash to a path of segments, and
  anything else is a path that is kept as a text.

A segment `.` is left out and a segment `..` takes the segment before it out.
-/

namespace ServiceCatalog.Address

set_option autoImplicit false

/-! ## Pieces -/

/-- Cuts a text before the first character of a class. -/
def cutBefore (stops : Char → Bool) (characters : List Char) : List Char × List Char :=
  characters.span fun character => !stops character

/-- The text without controls and spaces at both ends, and without tabs and line ends. -/
def cleaned (text : List Char) : List Char :=
  let blank := fun (character : Char) => decide (character.toNat ≤ 0x20)
  (Text.dropEndWhile blank (text.dropWhile blank)).filter fun character =>
    character != '\t' && character != '\n' && character != '\r'

/-- A character behind the first one of a scheme. -/
def inScheme (character : Char) : Bool := character.isAlphanum || "+-.".toList.contains character

/-- Splits the scheme off, in small letters. -/
def splitScheme? (characters : List Char) : Option (List Char × List Char) :=
  match characters with
  | first :: _ =>
      if first.isAlpha then
        match characters.span inScheme with
        | (scheme, ':' :: rest) => some (scheme.map Char.toLower, rest)
        | _ => none
      else none
  | [] => none

/-- A character that ends the authority. -/
def endsAuthority (kind : SchemeKind) (character : Char) : Bool :=
  "/?#".toList.contains character || (kind.isSpecial && character == '\\')

/-- A character that is encoded in credentials. -/
def inCredentials (character : Char) : Bool :=
  inPath character || "/:;=@[\\]^|".toList.contains character

/-! ## Authority -/

/-- Splits a text at its last at sign. -/
def splitCredentials (characters : List Char) : Option (List Char × List Char) :=
  match characters.reverse.span (· != '@') with
  | (_, []) => none
  | (back, _ :: front) => some (front.reverse, back.reverse)

/-- Reads credentials. -/
def readCredentials (characters : List Char) : Credentials :=
  match characters.span (· != ':') with
  | (user, []) => ⟨percentEncode inCredentials user, none⟩
  | (user, _ :: password) =>
      ⟨percentEncode inCredentials user,
        if password.isEmpty then none else some (percentEncode inCredentials password)⟩

/-- Splits a text before the colon of the port; colons between brackets do not count. -/
def splitPort : Bool → List Char → List Char × Option (List Char)
  | _, [] => ([], none)
  | inside, character :: rest =>
      if character = ':' ∧ !inside then ([], some rest)
      else
        let inside := if character = '[' then true else if character = ']' then false else inside
        let (host, port) := splitPort inside rest
        (character :: host, port)

/-- Reads a port and answers with what stands behind it.  The port that the scheme uses anyway is
left out.  A backslash ends the digits under every scheme. -/
def readPort (scheme characters : List Char) :
    Except AddressError (Option Nat × List Char) :=
  let (digits, stray) := cutBefore (· == '\\') characters
  if digits.all Char.isDigit then
    let port := Numeric.ofDigits digits
    if 65535 < port then .error .badPort
    else if digits.isEmpty ∨ some port = defaultPort? scheme then .ok (none, stray)
    else .ok (some port, stray)
  else .error .badPort

/-- Reads the authority of a web scheme or of another scheme, and answers with what its port did
not take. -/
def readAuthority (scheme : List Char) (kind : SchemeKind) (characters : List Char)
    (atEnd : Bool) : Except AddressError (Authority × List Char) := do
  let (credentials, rest, bare) : Credentials × List Char × Bool :=
    match splitCredentials characters with
    | none => (⟨[], none⟩, characters, false)
    | some ([], rest) => (⟨[], none⟩, rest, true)
    | some (front, rest) => (readCredentials front, rest, false)
  if bare ∧ rest.isEmpty ∧ !atEnd then throw .emptyHost
  let (hostText, portText) := splitPort false rest
  if hostText.isEmpty ∧ (kind.isSpecial ∨ portText.isSome) then throw .emptyHost
  let host ←
    if kind.isSpecial then some <$> specialHost hostText
    else if hostText.isEmpty then pure none
    else some <$> plainHost hostText
  let (port, stray) ← match portText with
    | none => pure (none, [])
    | some characters => readPort scheme characters
  if host.isNone ∧ !credentials.written.isEmpty then throw .emptyHost
  return (⟨credentials, host, port⟩, stray)

/-! ## Path -/

/-- A segment that stands for the place itself. -/
def isHere (segment : List Char) : Bool :=
  [".", "%2e"].contains (String.ofList (segment.map Char.toLower))

/-- A segment that stands for the place above. -/
def isAbove (segment : List Char) : Bool :=
  ["..", ".%2e", "%2e.", "%2e%2e"].contains (String.ofList (segment.map Char.toLower))

/-- A letter and a colon, or a bar in its place. -/
def isDrive : List Char → Bool
  | [letter, mark] => letter.isAlpha && (mark == ':' || mark == '|')
  | _ => false

/-- A path without its last segment; under the file scheme a drive stays. -/
def withoutLast (kind : SchemeKind) (path : List (List Char)) : List (List Char) :=
  match path with
  | [segment] => if kind = .file ∧ isDrive segment then path else []
  | _ => path.dropLast

/-- Adds the segments of a text to a path.  The last one leaves an empty segment if it stands for
a place. -/
def addSegments (kind : SchemeKind) : List (List Char) → List (List Char) → List (List Char)
  | path, [] => path
  | path, segment :: rest =>
      let last := rest.isEmpty
      let next :=
        if isAbove segment then withoutLast kind path ++ (if last then [[]] else [])
        else if isHere segment then path ++ (if last then [[]] else [])
        else if kind = .file ∧ path.isEmpty ∧ isDrive segment then [segment.take 1 ++ [':']]
        else path ++ [percentEncode inPath segment]
      addSegments kind next rest

/-- The segments of a text that begins behind a slash. -/
def readSegments (kind : SchemeKind) (characters : List Char) : List (List Char) :=
  let separates := fun character => character == '/' || (kind.isSpecial && character == '\\')
  addSegments kind [] (Text.splitWhen separates characters)

/-- The path behind an authority. -/
def readPath (kind : SchemeKind) (characters : List Char) : Path :=
  match characters with
  | [] => .segments (if kind.isSpecial then [[]] else [])
  | character :: rest =>
      if character = '/' ∨ (kind.isSpecial ∧ character = '\\') then
        .segments (readSegments kind rest)
      else .segments (readSegments kind characters)

/-- Empty segments at the front of a file path are left out, all but the last one. -/
def withoutEmptyFront : List (List Char) → List (List Char)
  | [] :: next :: rest => withoutEmptyFront (next :: rest)
  | path => path

/-! ## Addresses -/

/-- Splits the query and the fragment off and encodes them. -/
def splitTail (special : Bool) (characters : List Char) :
    List Char × Option (List Char) × Option (List Char) :=
  let (front, fragment) := cutBefore (· == '#') characters
  let (front, query) := cutBefore (· == '?') front
  let written := fun (encoded : Char → Bool) (part : List Char) =>
    match part with
    | [] => none
    | _ :: part => some (percentEncode encoded part)
  (front, written (inQuery special) query, written inFragment fragment)

/-- Reads what stands behind two slashes. -/
def readWithAuthority (scheme : List Char) (kind : SchemeKind) (characters : List Char) :
    Except AddressError AbsoluteAddress := do
  let (authorityText, rest) := cutBefore (endsAuthority kind) characters
  let (pathText, query, fragment) := splitTail kind.isSpecial rest
  let (authority, stray) ← readAuthority scheme kind authorityText rest.isEmpty
  return ⟨scheme, some authority, readPath kind (stray ++ pathText), query, fragment⟩

/-- Reads what stands behind the colon of the file scheme. -/
def readFile (characters : List Char) : Except AddressError AbsoluteAddress := do
  let isSlash := fun character => character == '/' || character == '\\'
  let scheme := "file".toList
  let (front, query, fragment) := splitTail true characters
  let file := fun (host : Option Host) (pathText : List Char) =>
    let segments := withoutEmptyFront (readSegments .file (pathText.dropWhile isSlash))
    let host := if segments.head?.any isDrive then none else host
    (⟨scheme, some ⟨⟨[], none⟩, host, none⟩, .segments segments, query, fragment⟩ : AbsoluteAddress)
  match front with
  | first :: second :: rest =>
      if isSlash first && isSlash second then
        let (hostText, pathText) := cutBefore isSlash rest
        if hostText.isEmpty then return file none pathText
        else if isDrive hostText then return file none rest
        else
          let host ← specialHost hostText
          if host = .name "localhost".toList then return file none pathText
          return file (some host) pathText
      else return file none front
  | _ => return file none front

/-- Reads what stands behind the colon of a scheme that is not special. -/
def readOther (scheme : List Char) (characters : List Char) : Except AddressError AbsoluteAddress :=
  match characters with
  | '/' :: '/' :: rest => readWithAuthority scheme .other rest
  | '/' :: rest =>
      let (pathText, query, fragment) := splitTail false rest
      .ok ⟨scheme, none, .segments (readSegments .other pathText), query, fragment⟩
  | _ =>
      let (pathText, query, fragment) := splitTail false characters
      .ok ⟨scheme, none, .text (percentEncode isControlOrHigh pathText), query, fragment⟩

/-- Reads an absolute address. -/
def readAddress (text : String) : Except AddressError AbsoluteAddress :=
  match splitScheme? (cleaned text.toList) with
  | none => .error .relative
  | some (scheme, rest) =>
      match SchemeKind.of scheme with
      | .web =>
          readWithAuthority scheme .web
            (rest.dropWhile fun character => character == '/' || character == '\\')
      | .file => readFile rest
      | .other => readOther scheme rest

end ServiceCatalog.Address
