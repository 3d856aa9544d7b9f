import ServiceCatalog.Catalog.Vocabulary
import ServiceCatalog.Text.Words

/-!
# Names of operations

An operation is called by its name.  The name comes from the identifier that the document gives
the operation; where there is none it is put together from the verb and the path.

* An identifier is trimmed, and dots, dashes, braces and white space become underscores.
* From verb and path, every segment of the path gives its words in pascal case behind the verb,
  and a segment that is one placeholder gives `By` and the name of the placeholder:
  `get /versions/{version}` is called `getVersionsByVersion`.
-/

namespace ServiceCatalog

set_option autoImplicit false

open ServiceCatalog.Text

namespace OperationName

/-! ## From an identifier -/

/-- A character of an identifier as it stands in the name. -/
def normalisedChar (character : Char) : Char :=
  if character = '.' ∨ character = '-' ∨ character = '{' ∨ character = '}' ∨ isBlank character
  then '_' else character

/-- The name that an identifier gives. -/
def ofIdentifier (identifier : String) : String :=
  String.ofList ((trim identifier.toList).map normalisedChar)

/-! ## From verb and path -/

/-- The name in braces, for a segment that begins with an opening brace and ends with a closing
one. -/
def bracedName? : List Char → Option (List Char)
  | '{' :: rest => if rest.getLast? = some '}' then some rest.dropLast else none
  | _ => none

/-- A segment of a path as it enters the name. -/
def segmentText (segment : List Char) : List Char :=
  match bracedName? segment with
  | some name => ['b', 'y'] ++ capitalised name
  | none => segment

/-- Drops slashes from both ends. -/
def withoutOuterSlashes (path : List Char) : List Char :=
  dropEndWhile (· == '/') (path.dropWhile (· == '/'))

/-- The name that verb and path give. -/
def ofAddress (verb : Verb) (path : String) : String :=
  let trimmed := withoutOuterSlashes path.toList
  if trimmed = [] then verb.lower
  else
    let segments := (splitWhen (· == '/') trimmed).map segmentText
    verb.lower ++ String.ofList (pascalCaseChars (List.intercalate ['-'] segments))

/-- The name of an operation: from its identifier if that is more than white space, otherwise
from verb and path. -/
def choose (identifier : Option String) (verb : Verb) (path : String) : String :=
  match identifier with
  | some text => if trim text.toList = [] then ofAddress verb path else ofIdentifier text
  | none => ofAddress verb path

end OperationName

end ServiceCatalog
