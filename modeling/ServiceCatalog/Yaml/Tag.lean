import ServiceCatalog.Numeric.Digits
import ServiceCatalog.Text.Utf8
import ServiceCatalog.Yaml.Cursor
import ServiceCatalog.Yaml.Node

/-!
# Tags, anchors and directives

A tag is a handle and a suffix.  The handle is `!`, `!!` or a name between two such signs, and
stands for the beginning of the tag that a directive gives it; a tag between angle brackets has
no handle and is taken as it is.  In a suffix any octet may stand behind a percent sign.

There are two directives: one gives the version of the format, one gives a handle its meaning.
-/

namespace ServiceCatalog.Yaml

set_option autoImplicit false

open ServiceCatalog.Numeric

/-! ## Suffixes -/

/-- A character of a suffix; the last three only if the suffix is delimited. -/
def isTagChar (delimited : Bool) (character : Char) : Bool :=
  isNameChar character || ";/?:@&=+$.%!~*\x27()".toList.contains character
    || (delimited && ",[]".toList.contains character)

/-- An octet behind a percent sign. -/
def percentOctet? : List Char → Option (Nat × List Char)
  | '%' :: first :: second :: rest => do
      let high ← hexValue? first
      let low ← hexValue? second
      return (high * 16 + low, rest)
  | _ => none

/-- How many octets follow the first octet of a character. -/
def furtherOctets? (octet : Nat) : Option Nat :=
  if octet < 0x80 then some 0
  else if octet < 0xC0 then none
  else if octet < 0xE0 then some 1
  else if octet < 0xF0 then some 2
  else if octet < 0xF8 then some 3
  else none

/-- Octets behind percent signs that go on a character. -/
def percentTail? : Nat → List Char → Option (TagText × List Char)
  | 0, characters => some ([], characters)
  | count + 1, characters => do
      let (octet, rest) ← percentOctet? characters
      if octet < 0x80 ∨ 0xC0 ≤ octet then none
      else
        let (octets, rest) ← percentTail? count rest
        return (octet.toUInt8 :: octets, rest)

/-- The octets of a character behind percent signs. -/
def percentChar? (characters : List Char) : Option (TagText × List Char) := do
  let (octet, rest) ← percentOctet? characters
  let further ← furtherOctets? octet
  let (octets, rest) ← percentTail? further rest
  return (octet.toUInt8 :: octets, rest)

/-- The octets of a suffix, and what lies behind it. -/
def tagSuffix? (delimited : Bool) : Nat → List Char → Option (TagText × List Char)
  | 0, _ => none
  | _, [] => some ([], [])
  | fuel + 1, character :: rest =>
      if !isTagChar delimited character then some ([], character :: rest)
      else do
        let (octets, rest) ←
          if character = '%' then percentChar? (character :: rest)
          else some (Text.encodeChar character, rest)
        let (more, behind) ← tagSuffix? delimited fuel rest
        return (octets ++ more, behind)

/-- A suffix, which may be empty, and what lies behind it. -/
def readSuffix? (delimited : Bool) (characters : List Char) : Option (TagText × List Char) :=
  tagSuffix? delimited (characters.length + 1) characters

/-! ## Tags -/

/-- A handle: two exclamation marks with a name between them, or one mark and a name. -/
structure Handle where
  name : List Char
  closed : Bool
  deriving DecidableEq, Repr

/-- The handle that begins with the next character, an exclamation mark. -/
def readHandle? : List Char → Option (Handle × List Char)
  | '!' :: rest =>
      let name := rest.takeWhile isNameChar
      match rest.drop name.length with
      | '!' :: behind => some (⟨name, true⟩, behind)
      | behind => some (⟨name, false⟩, behind)
  | _ => none

/-- A handle as it is written. -/
def Handle.text (handle : Handle) : String :=
  String.ofList (if handle.closed then '!' :: handle.name ++ ['!'] else '!' :: handle.name)

/-- The tag that begins with the next character, an exclamation mark.  A name behind a single
mark is part of the suffix, and a mark alone is a suffix without a handle. -/
def readTag? (characters : List Char) : Option (Token × List Char) := do
  match characters with
  | '!' :: '<' :: rest =>
      let (suffix, behind) ← readSuffix? true rest
      match behind with
      | '>' :: behind => if suffix.isEmpty then none else return (.tag "" suffix, behind)
      | _ => none
  | _ =>
      let (handle, rest) ← readHandle? characters
      let (suffix, behind) ← readSuffix? false rest
      if handle.closed then
        if suffix.isEmpty then none else return (.tag handle.text suffix, behind)
      else
        let suffix := Text.encode handle.name ++ suffix
        if suffix.isEmpty then return (.tag "" (Text.encodeChar '!'), behind)
        else return (.tag "!" suffix, behind)

/-- The tag at a place: a gap follows it, or a comma in a flow collection. -/
def tagAt? (inFlow : Bool) (cursor : Cursor) : Option (Token × Cursor) := do
  let (tag, behind) ← readTag? cursor.rest
  if endsWord behind || (inFlow && behind.head? = some ',') then return (tag, cursor.upTo behind)
  else none

/-! ## Anchors -/

/-- The name behind the sign of an anchor or an alias.  It is not empty, and what follows it is a
gap or one of some signs. -/
def anchorName? (cursor : Cursor) : Option (String × Cursor) :=
  let (name, behind) := cursor.next.span isNameChar
  if name.isEmpty then none
  else if endsWord behind.rest || behind.rest.head?.any "?:,]\x7d%@\x60".toList.contains then
    some (String.ofList name, behind)
  else none

/-! ## Directives -/

/-- The longest writing of a number of a version. -/
def longestVersionNumber : Nat := 9

/-- A number of a version. -/
def versionNumber? (characters : List Char) : Option (Nat × List Char) :=
  let digits := characters.takeWhile Char.isDigit
  if digits.isEmpty ∨ longestVersionNumber < digits.length then none
  else some (ofDigits digits, characters.drop digits.length)

/-- A version: two numbers with a point between them. -/
def version? (characters : List Char) : Option (Token × List Char) := do
  let (major, rest) ← versionNumber? characters
  match rest with
  | '.' :: rest =>
      let (minor, rest) ← versionNumber? rest
      return (.versionDirective major minor, rest)
  | _ => none

/-- A handle and the beginning of the tags that it stands for. -/
def handleMeaning? (characters : List Char) : Option (Token × List Char) := do
  let (handle, rest) ← readHandle? characters
  if !handle.closed && !handle.name.isEmpty then none
  else if !rest.head?.any isSpace then none
  else
    let (stem, behind) ← readSuffix? true (rest.dropWhile isSpace)
    if stem.isEmpty || !endsWord behind then none
    else return (.tagDirective handle.text stem, behind)

/-- The directive whose percent sign stands at a place, and the place behind its line. -/
def directiveAt? (cursor : Cursor) : Option (Token × Cursor) := do
  let (name, behind) := cursor.next.span isNameChar
  if !endsWord behind.rest then none
  else
    let start := behind.skipWhile isSpace
    let (token, rest) ←
      if name = "YAML".toList then version? start.rest
      else if name = "TAG".toList then handleMeaning? start.rest
      else none
    let next ← (start.upTo rest).nextLine?
    return (token, next)

end ServiceCatalog.Yaml
