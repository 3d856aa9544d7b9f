import ServiceCatalog.Text.Alphanumeric
import ServiceCatalog.Text.Blank
import ServiceCatalog.Text.LetterCase

/-!
# Words and case styles

Names in API descriptions follow every convention there is: `spTypeId`, `X-Request-ID`,
`list all`.  To give them one spelling, a name is first cut into words and the words are then
put together in a case style.

A name is cut in two steps.

* Characters that are neither letters nor numbers separate words and belong to none.
* Inside a stretch of letters and numbers, a capital letter begins a word if the character
  before it is a small letter or a digit (`dp|Id`, `v2|Models`), or if it is itself the last
  capital of a run and a small letter follows (`HTTP|Client`).

Both steps are recursions on the characters, so that statements about words are inductions:
`words` only ever regroups the characters that it keeps.

The two case styles are `snakeCase` (`sp_type_id`) and `pascalCase` (`SpTypeId`).
-/

namespace ServiceCatalog.Text

set_option autoImplicit false

/-! ## Cutting a name into words -/

/-- The capital letter `current` begins a word, given its two neighbours. -/
def beginsWord (previous current : Char) (next : Option Char) : Bool :=
  isUppercase current &&
    (isLowercase previous || previous.isDigit || (next.any isLowercase && isUppercase previous))

/-- Puts a character in front of the first word. -/
def extendFirst (character : Char) : List (List Char) → List (List Char)
  | [] => [[character]]
  | word :: words => (character :: word) :: words

/-- The words of a stretch of letters and numbers. -/
def camelWords : List Char → List (List Char)
  | [] => []
  | [character] => [[character]]
  | previous :: current :: rest =>
      if beginsWord previous current rest.head? then
        [previous] :: camelWords (current :: rest)
      else extendFirst previous (camelWords (current :: rest))

/-- The stretches of letters and numbers. -/
def stretches (characters : List Char) : List (List Char) :=
  (splitWhen (fun character => !isAlphanumeric character) characters).filter (!·.isEmpty)

/-- The words of a name. -/
def words (characters : List Char) : List (List Char) :=
  (stretches characters).flatMap camelWords

/-! ## Case styles -/

/-- Small words joined by underscores, on characters. -/
def snakeCaseChars (characters : List Char) : List Char :=
  List.intercalate ['_'] ((words characters).map lowercase)

/-- Capitalised words put side by side, on characters. -/
def pascalCaseChars (characters : List Char) : List Char :=
  (words characters).flatMap fun word => capitalised (lowercase word)

/-- Small words joined by underscores: `spTypeId` becomes `sp_type_id`. -/
def snakeCase (name : String) : String := String.ofList (snakeCaseChars name.toList)

/-- Capitalised words put side by side: `demand-partners` becomes `DemandPartners`. -/
def pascalCase (name : String) : String := String.ofList (pascalCaseChars name.toList)

end ServiceCatalog.Text
