import ServiceCatalog.Text.CodeTable

/-!
# Places in a YAML text

What a character means in a YAML text depends on its column and on what stands around it.  This
module has the classes of characters that the readers of the format ask for, and the `Cursor`,
which is a line, a column and the characters from there on.

Line breaks are made uniform before anything is read: a carriage return, alone or before a line
feed, and the next line character become a line feed.  The line separator and the paragraph
separator break lines too, but stay what they are (`uniformBreaks`).
-/

namespace ServiceCatalog.Yaml

set_option autoImplicit false

/-! ## Characters -/

/-- The characters that may stand in a text. -/
def isAllowed (character : Char) : Bool :=
  Text.inRanges [(0x9, 0xA), (0xD, 0xD), (0x20, 0x7E), (0x85, 0x85), (0xA0, 0xD7FF),
    (0xE000, 0xFEFE), (0xFF00, 0xFFFD), (0x10000, 0x10FFFF)] character.toNat

/-- The characters of a text with uniform line breaks. -/
def uniformBreaks : List Char → List Char
  | [] => []
  | '\r' :: '\n' :: rest => '\n' :: uniformBreaks rest
  | character :: rest =>
      (if character = '\r' ∨ character = '\x85' then '\n' else character) :: uniformBreaks rest

/-- A character that ends a line. -/
def isBreak (character : Char) : Bool :=
  character == '\n' || character == '\u2028' || character == '\u2029'

/-- A space or a tab. -/
def isSpace (character : Char) : Bool := character == ' ' || character == '\t'

/-- A character of what may lie between words. -/
def isGap (character : Char) : Bool := isSpace character || isBreak character

/-- A digit, a basic letter, a low line or a hyphen. -/
def isNameChar (character : Char) : Bool :=
  character.isAlphanum || character == '_' || character == '-'

/-- A sign of the flow collections. -/
def isFlowSign (character : Char) : Bool := ",[]\x7b\x7d".toList.contains character

/-- No word goes on here: the text ends, or a gap follows. -/
def endsWord : List Char → Bool
  | [] => true
  | character :: _ => isGap character

/-- No line goes on here: the text ends, or a break follows. -/
def endsLine : List Char → Bool
  | [] => true
  | character :: _ => isBreak character

/-- A sign three times, and no word that goes on. -/
def isTriple (sign : Char) : List Char → Bool
  | first :: second :: third :: rest =>
      first == sign && second == sign && third == sign && endsWord rest
  | _ => false

/-! ## The cursor -/

/-- A line, a column, and the characters from there on. -/
structure Cursor where
  line : Nat
  column : Nat
  rest : List Char
  deriving Repr

namespace Cursor

/-- The beginning of a text. -/
def ofText (characters : List Char) : Cursor := ⟨0, 0, characters⟩

/-- The place behind the next character. -/
def next (cursor : Cursor) : Cursor :=
  match cursor.rest with
  | [] => cursor
  | character :: rest =>
      if isBreak character then ⟨cursor.line + 1, 0, rest⟩
      else ⟨cursor.line, cursor.column + 1, rest⟩

/-- The place behind some characters. -/
def skip : Nat → Cursor → Cursor
  | 0, cursor => cursor
  | count + 1, cursor => skip count cursor.next

/-- The place on the same line where only the characters `behind` are left. -/
def upTo (cursor : Cursor) (behind : List Char) : Cursor :=
  ⟨cursor.line, cursor.column + (cursor.rest.length - behind.length), behind⟩

/-- The characters of a class from a place on, and the place behind them. -/
def span (inClass : Char → Bool) (cursor : Cursor) : List Char × Cursor :=
  let characters := cursor.rest.takeWhile inClass
  (characters, cursor.skip characters.length)

/-- A class of characters is skipped. -/
def skipWhile (inClass : Char → Bool) (cursor : Cursor) : Cursor := (cursor.span inClass).2

/-- A document begins or ends here: at the start of a line stand three hyphens or points. -/
def atDocumentMark (cursor : Cursor) : Bool :=
  cursor.column == 0 && (isTriple '-' cursor.rest || isTriple '.' cursor.rest)

/-- The place at the end of the line, behind a comment. -/
def skipComment (cursor : Cursor) : Cursor :=
  match cursor.rest with
  | '#' :: _ => cursor.skipWhile (!isBreak ·)
  | _ => cursor

/-- The place at the start of the next line, if only spaces and a comment are left on this. -/
def nextLine? (cursor : Cursor) : Option Cursor :=
  let cursor := (cursor.skipWhile isSpace).skipComment
  if endsLine cursor.rest then some cursor.next else none

end Cursor

end ServiceCatalog.Yaml
