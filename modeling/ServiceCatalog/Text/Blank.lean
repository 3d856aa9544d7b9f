import ServiceCatalog.Text.CodeTable

/-!
# White space and lines

White space is the `White_Space` property of the Unicode standard: the plain space, tab, line
feed, vertical tab, form feed, carriage return, next line, the no-break space and the wide
spaces of the punctuation blocks.

A text is cut into lines after every line feed.  The feed is not part of its line, nor is a
carriage return directly before it, and a feed at the very end opens no further line.
-/

namespace ServiceCatalog.Text

set_option autoImplicit false

/-! ## White space -/

/-- White space of the Unicode standard. -/
def isBlank (character : Char) : Bool :=
  inRanges [(0x9, 0xD), (0x20, 0x20), (0x85, 0x85), (0xA0, 0xA0), (0x1680, 0x1680),
    (0x2000, 0x200A), (0x2028, 0x2029), (0x202F, 0x202F), (0x205F, 0x205F), (0x3000, 0x3000)]
    character.toNat

/-- Drops the elements of a class from the end. -/
def dropEndWhile {α : Type} (inClass : α → Bool) (elements : List α) : List α :=
  (elements.reverse.dropWhile inClass).reverse

/-- Drops white space from both ends. -/
def trim (characters : List Char) : List Char :=
  dropEndWhile isBlank (characters.dropWhile isBlank)

/-- Drops white space from the end. -/
def trimEnd (characters : List Char) : List Char :=
  dropEndWhile isBlank characters

/-! ## Cutting at a separator -/

/-- The pieces between the characters that satisfy `separates`, empty ones included. -/
def splitWhen (separates : Char → Bool) : List Char → List (List Char)
  | [] => [[]]
  | character :: rest =>
      if separates character then [] :: splitWhen separates rest
      else
        match splitWhen separates rest with
        | [] => [[character]]
        | piece :: pieces => (character :: piece) :: pieces

/-! ## Lines -/

/-- A line that was ended by a feed, without a carriage return at its end. -/
def withoutReturn (line : List Char) : List Char :=
  if line.getLast? = some '\r' then line.dropLast else line

/-- Lines from the pieces between line feeds: the last piece was not ended by a feed, so it
keeps a carriage return, and is no line at all if it is empty. -/
def linesOfPieces : List (List Char) → List (List Char)
  | [] => []
  | [last] => if last = [] then [] else [last]
  | piece :: pieces => withoutReturn piece :: linesOfPieces pieces

/-- The lines of a text. -/
def lines (text : String) : List String :=
  (linesOfPieces (splitWhen (· == '\n') text.toList)).map String.ofList

end ServiceCatalog.Text
