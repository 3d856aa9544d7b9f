import ServiceCatalog.Numeric.Digits
import ServiceCatalog.Text.Blank

/-!
# Reading TOML

The manifest of a package is read by other programs, which follow version 1.0 of TOML.  Here is
a reader of the part of the format that a manifest of names and places is written in: comments,
tables that are named in a line of their own, keys with or without quotes, basic strings, and
tables in one line whose values are strings.

A text is refused for one of two reasons.  It is `invalid` if no document of the format begins
like it.  It is `unsupported` where something begins that is outside this part, which may be
right or wrong: a dotted key, a string in single or triple quotes, an array, or any other value
that is no string.

Two rules of basic strings are easily missed by a program that writes them.  The short escapes
are `\b`, `\t`, `\n`, `\f`, `\r`, `\"` and `\\` and no others, and an escape of a code point has
exactly four digits behind a small `u` or eight behind a capital one, without braces.
-/

namespace ServiceCatalog.Toml

set_option autoImplicit false

/-- Why a text is refused. -/
inductive Refusal where
  | invalid
  | unsupported
  deriving DecidableEq, Repr

/-- A value. -/
inductive Item where
  | text (text : String)
  | table (entries : List (String × Item))
  deriving Repr

/-- The value to which keys lead. -/
def Item.at? : Item → List String → Option Item
  | item, [] => some item
  | .table entries, key :: keys => do (← entries.lookup key).at? keys
  | .text _, _ :: _ => none

/-- No key is given twice. -/
def areDistinct {α : Type} (entries : List (String × α)) : Bool :=
  decide (entries.map Prod.fst).Nodup

/-! ## Characters -/

/-- A tab, or no control of the basic range. -/
def isVisible (character : Char) : Bool :=
  character == '\t' || (0x20 ≤ character.toNat && character.toNat != 0x7F)

/-- A character that stands for itself in a string. -/
def isPlain (character : Char) : Bool :=
  isVisible character && character != '"' && character != '\\'

/-- A character of a key without quotes. -/
def isBare (character : Char) : Bool :=
  character.isAlphanum || character == '-' || character == '_'

/-- Drops blanks. -/
def skipBlanks (characters : List Char) : List Char :=
  characters.dropWhile fun character => character == ' ' || character == '\t'

/-! ## Strings -/

/-- The character of a short escape. -/
def escapedChar? (sign : Char) : Option Char :=
  if sign = 'b' then some '\x08' else if sign = 't' then some '\t'
  else if sign = 'n' then some '\n' else if sign = 'f' then some '\x0c'
  else if sign = 'r' then some '\r' else if sign = '"' ∨ sign = '\\' then some sign else none

/-- The number of digits of an escape of a code point. -/
def codeLength? (sign : Char) : Option Nat :=
  if sign = 'u' then some 4 else if sign = 'U' then some 8 else none

/-- What the reader of a string stands behind: a whole character, a backslash, or the first
digits of a code point. -/
inductive Standing where
  | character
  | backslash
  | digits (left number : Nat)

/-- Puts a character before those that a string goes on with. -/
def putBefore (character : Char) (others : List Char × List Char) : List Char × List Char :=
  (character :: others.1, others.2)

/-- Reads the characters of a string up to the quote that ends it. -/
def readString : Standing → List Char → Except Refusal (List Char × List Char)
  | _, [] => .error .invalid
  | .character, character :: rest =>
      if character = '"' then .ok ([], rest)
      else if character = '\\' then readString .backslash rest
      else if isPlain character then (readString .character rest).map (putBefore character)
      else .error .invalid
  | .backslash, sign :: rest =>
      match escapedChar? sign, codeLength? sign with
      | some character, _ => (readString .character rest).map (putBefore character)
      | none, some length => readString (.digits length 0) rest
      | none, none => .error .invalid
  | .digits left number, digit :: rest =>
      match Numeric.hexValue? digit with
      | none => .error .invalid
      | some value =>
          let code := number * 16 + value
          if 1 < left then readString (.digits (left - 1) code) rest
          else if code.isValidChar then
            (readString .character rest).map (putBefore (Char.ofNat code))
          else .error .invalid

/-! ## Keys and values -/

/-- Reads the characters of a key. -/
def readKeyCharacters : List Char → Except Refusal (List Char × List Char)
  | '"' :: rest => readString .character rest
  | '\'' :: _ => .error .unsupported
  | characters =>
      if characters.takeWhile isBare = [] then .error .invalid
      else .ok (characters.takeWhile isBare, characters.dropWhile isBare)

/-- Reads a key and the blanks behind it. -/
def readKey (characters : List Char) : Except Refusal (String × List Char) := do
  let (key, rest) ← readKeyCharacters characters
  match skipBlanks rest with
  | '.' :: _ => .error .unsupported
  | rest => return (String.ofList key, rest)

/-- Reads a key, the sign behind it, and a value. -/
def readPair (readValue : List Char → Except Refusal (Item × List Char))
    (characters : List Char) : Except Refusal ((String × Item) × List Char) := do
  let (key, rest) ← readKey characters
  match rest with
  | '=' :: rest =>
      let (item, rest) ← readValue (skipBlanks rest)
      return ((key, item), rest)
  | _ => .error .invalid

/-- Reads a value that is a string.  An empty string with a quote behind it is the beginning of
triple quotes. -/
def readText : List Char → Except Refusal (Item × List Char)
  | [] => .error .invalid
  | '"' :: rest => do
      let (characters, rest) ← readString .character rest
      if characters = [] ∧ rest.head? = some '"' then .error .unsupported
      else return (.text (String.ofList characters), rest)
  | _ => .error .unsupported

/-- Reads the entries of a table in one line up to the brace that ends it, of which there are
less than the fuel. -/
def readEntries : Nat → List Char → Except Refusal (List (String × Item) × List Char)
  | 0, _ => .error .unsupported
  | fuel + 1, characters => do
      let (entry, rest) ← readPair readText (skipBlanks characters)
      match skipBlanks rest with
      | '\x7d' :: rest => return ([entry], rest)
      | ',' :: rest =>
          let (entries, rest) ← readEntries fuel rest
          return (entry :: entries, rest)
      | _ => .error .invalid

/-- Reads a value. -/
def readValue : List Char → Except Refusal (Item × List Char)
  | '\x7b' :: characters => do
      match skipBlanks characters with
      | '\x7d' :: rest => return (.table [], rest)
      | _ =>
          let (entries, rest) ← readEntries characters.length characters
          if areDistinct entries then return (.table entries, rest) else .error .invalid
  | characters => readText characters

/-! ## Lines -/

/-- What a line says. -/
inductive Statement where
  | nothing
  | header (name : String)
  | pair (entry : String × Item)

/-- Nothing but a comment is left of a line. -/
def readEnd (characters : List Char) : Except Refusal Unit :=
  match skipBlanks characters with
  | [] => .ok ()
  | '#' :: comment => if comment.all isVisible then .ok () else .error .invalid
  | _ => .error .invalid

/-- Reads a line. -/
def readLine (characters : List Char) : Except Refusal Statement := do
  match skipBlanks characters with
  | [] => return .nothing
  | '#' :: comment =>
      readEnd ('#' :: comment)
      return .nothing
  | '[' :: '[' :: _ => .error .unsupported
  | '[' :: rest =>
      let (name, rest) ← readKey (skipBlanks rest)
      match rest with
      | ']' :: rest =>
          readEnd rest
          return .header name
      | _ => .error .invalid
  | characters =>
      let (entry, rest) ← readPair readValue characters
      readEnd rest
      return .pair entry

/-! ## Documents -/

/-- The entries before the first header, and those behind each header. -/
def sections : List Statement → List (String × Item) × List (String × List (String × Item))
  | [] => ([], [])
  | .nothing :: statements => sections statements
  | .pair entry :: statements => (entry :: (sections statements).1, (sections statements).2)
  | .header name :: statements =>
      ([], (name, (sections statements).1) :: (sections statements).2)

/-- The document that statements make. -/
def assemble (statements : List Statement) : Except Refusal Item :=
  let (entries, tables) := sections statements
  let all := entries ++ tables.map fun (name, entries) => (name, .table entries)
  if areDistinct all && tables.all (fun (_, entries) => areDistinct entries) then .ok (.table all)
  else .error .invalid

/-- Reads a document. -/
def read (text : String) : Except Refusal Item := do
  assemble (← (Text.lines text).mapM fun line => readLine line.toList)

end ServiceCatalog.Toml
