import ServiceCatalog.Numeric.Digits
import ServiceCatalog.Source.Token
import ServiceCatalog.Text.Blank
import ServiceCatalog.Text.Identifier

/-!
# Reading a source from paper

A source on paper is read character by character.  Words, quoted texts and comments are gathered
until the character that ends them; every other character but a blank is a mark of its own.
Comments say nothing, except that a third sign like the second, or an exclamation mark, makes one
documentation, which is an attribute.  Comments between two signs may hold further ones.
-/

namespace ServiceCatalog.Source

set_option autoImplicit false

/-- What is being gathered, the last character first. -/
inductive Gathering where
  | nothing
  | word (characters : List Char)
  | slash
  | twoSlashes
  | threeSlashes
  | comment
  | doc (inner : Bool) (characters : List Char)
  | slashStar
  | slashTwoStars
  | block (inner : Option Bool) (characters : List Char) (depth : Nat) (previous : Char)
  | quoted (characters : List Char)
  | escape (characters : List Char)
  | code (characters : List Char) (number : Nat)

namespace Gathering

/-- The text of what was gathered. -/
def textOf (characters : List Char) : String := String.ofList characters.reverse

/-- The tokens of a line of documentation. -/
def docTokens (inner : Bool) (characters : List Char) : List Token :=
  if inner then fileDocTokens (textOf characters)
  else Attribute.tokens (.doc (textOf characters))

/-- Begins at a character. -/
def start (character : Char) : List Token × Gathering :=
  if Text.isBlank character then ([], .nothing)
  else if character = '"' then ([], .quoted [])
  else if character = '/' then ([], .slash)
  else if Text.isIdentifierPart character then ([], .word [character])
  else ([.mark character], .nothing)

/-- Ends a token and begins at a character. -/
def restart (tokens : List Token) (character : Char) : List Token × Gathering :=
  let (more, next) := start character
  (tokens ++ more, next)

/-- The character of a short escape. -/
def escapedChar (sign : Char) : Char :=
  if sign = 'n' then '\n' else if sign = 'r' then '\r' else if sign = 't' then '\t'
  else if sign = '0' then '\x00' else sign

/-- Reads a character: the tokens that it completes, and what is gathered then. -/
def step : Gathering → Char → List Token × Gathering
  | .nothing, character => start character
  | .word characters, character =>
      if Text.isIdentifierPart character then ([], .word (character :: characters))
      else restart [.word (textOf characters)] character
  | .slash, character =>
      if character = '/' then ([], .twoSlashes)
      else if character = '*' then ([], .slashStar)
      else restart [.mark '/'] character
  | .twoSlashes, character =>
      if character = '/' then ([], .threeSlashes)
      else if character = '!' then ([], .doc true [])
      else if character = '\n' then ([], .nothing)
      else ([], .comment)
  | .threeSlashes, character =>
      if character = '/' then ([], .comment)
      else if character = '\n' then (docTokens false [], .nothing)
      else ([], .doc false [character])
  | .comment, character => ([], if character = '\n' then .nothing else .comment)
  | .doc inner characters, character =>
      if character = '\n' then (docTokens inner characters, .nothing)
      else ([], .doc inner (character :: characters))
  | .slashStar, character =>
      if character = '*' then ([], .slashTwoStars)
      else if character = '!' then ([], .block (some true) [] 0 ' ')
      else ([], .block none [character] 0 character)
  | .slashTwoStars, character =>
      if character = '/' then ([], .nothing)
      else if character = '*' then ([], .block none [character] 0 character)
      else ([], .block (some false) [character] 0 character)
  | .block inner characters depth previous, character =>
      if previous = '*' ∧ character = '/' then
        if depth = 0 then
          ((inner.map fun inner => docTokens inner (characters.drop 1)).getD [], .nothing)
        else ([], .block inner (character :: characters) (depth - 1) ' ')
      else if previous = '/' ∧ character = '*' then
        ([], .block inner (character :: characters) (depth + 1) ' ')
      else ([], .block inner (character :: characters) depth character)
  | .quoted characters, character =>
      if character = '"' then ([.text (textOf characters)], .nothing)
      else if character = '\\' then ([], .escape characters)
      else ([], .quoted (character :: characters))
  | .escape characters, character =>
      if character = 'u' then ([], .code characters 0)
      else ([], .quoted (escapedChar character :: characters))
  | .code characters number, character =>
      if character = '\x7b' then ([], .code characters number)
      else if character = '\x7d' then ([], .quoted (Char.ofNat number :: characters))
      else ([], .code characters (number * 16 + (Numeric.hexValue? character).getD 0))

/-- The tokens that the end of the text completes. -/
def finish : Gathering → List Token
  | .word characters => [.word (textOf characters)]
  | .slash => [.mark '/']
  | .threeSlashes => docTokens false []
  | .doc inner characters => docTokens inner characters
  | _ => []

end Gathering

/-- Reads the characters of a source. -/
def scan : Gathering → List Char → List Token
  | gathering, [] => gathering.finish
  | gathering, character :: rest =>
      let (tokens, next) := gathering.step character
      tokens ++ scan next rest

/-- A mark that closes brackets. -/
def isClosing : Token → Bool
  | .mark sign => sign == ')' || sign == ']' || sign == '\x7d' || sign == '>'
  | _ => false

/-- Tokens without commas before closing marks. -/
def withoutLastCommas : List Token → List Token
  | .mark ',' :: next :: rest =>
      if isClosing next then withoutLastCommas (next :: rest)
      else .mark ',' :: withoutLastCommas (next :: rest)
  | token :: rest => token :: withoutLastCommas rest
  | [] => []

/-- The tokens of a source on paper. -/
def readTokens (text : String) : List Token := withoutLastCommas (scan .nothing text.toList)

end ServiceCatalog.Source
