/-!
# Path templates

A path template is a text with placeholders: a name between braces, where the name itself
contains no brace.  Two scans go through a template:

* one gathers the names of its placeholders that are not empty, in order (`names`);
* one replaces the placeholders whose name is given, and keeps everything else as it was written
  (`fill`).  What is filled in is never looked at again, so braces in a value stay.

A brace without its partner is a literal character.  When a second opening brace comes before
the closing one, the first is a literal and the placeholder begins at the second.  So behind an
opening brace both scans hold back the characters of a possible name, the last one first, until a
brace decides what they are.
-/

namespace ServiceCatalog

set_option autoImplicit false

namespace Template

/-! ## Names -/

/-- The names in the characters of a template, behind what is held back. -/
def namesFrom : Option (List Char) → List Char → List (List Char)
  | _, [] => []
  | none, character :: rest =>
      if character = '{' then namesFrom (some []) rest else namesFrom none rest
  | some held, character :: rest =>
      if character = '{' then namesFrom (some []) rest
      else if character = '}' then
        if held = [] then namesFrom none rest else held.reverse :: namesFrom none rest
      else namesFrom (some (character :: held)) rest

/-- The names of the placeholders, in order. -/
def names (template : String) : List String :=
  (namesFrom none template.toList).map String.ofList

/-- The names that are not declared, in order. -/
def undeclared (template : String) (declared : List String) : List String :=
  (names template).filter fun name => !declared.contains name

/-! ## Filling in -/

/-- The characters of a template with its placeholders filled in, behind what is held back.  Each is
filled in by the first value that is given for its name. -/
def fillFrom (values : List (List Char × List Char)) : Option (List Char) → List Char → List Char
  | none, [] => []
  | some held, [] => '{' :: held.reverse
  | none, character :: rest =>
      if character = '{' then fillFrom values (some []) rest
      else character :: fillFrom values none rest
  | some held, character :: rest =>
      if character = '{' then '{' :: (held.reverse ++ fillFrom values (some []) rest)
      else if character = '}' then
        (values.lookup held.reverse).getD ('{' :: (held.reverse ++ ['}']))
          ++ fillFrom values none rest
      else fillFrom values (some (character :: held)) rest

/-- A template with placeholders filled in, on characters. -/
def fillChars (template : List Char) (values : List (List Char × List Char)) : List Char :=
  fillFrom values none template

/-- A template with placeholders filled in. -/
def fill (template : String) (values : List (String × String)) : String :=
  String.ofList (fillChars template.toList
    (values.map fun (name, value) => (name.toList, value.toList)))

end Template

end ServiceCatalog
