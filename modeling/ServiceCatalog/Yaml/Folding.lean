import ServiceCatalog.Numeric.Digits
import ServiceCatalog.Text.Blank
import ServiceCatalog.Yaml.Cursor

/-!
# Scalars that go over several lines

A plain or a quoted scalar may go on over several lines.  Between two of its words lies a gap of
spaces, tabs and line breaks.  A gap inside a line stands as it is.  A gap with line breaks is
folded (`folded`): the spaces around the breaks vanish, a single break becomes a space, and of
several breaks the first vanishes.  A separator that breaks a line is never folded away.

* A **plain** scalar ends before `: `, before ` #`, before a line that is indented too little, at
  a document mark, and inside a flow collection at the signs of the collections.
* A **quoted** scalar ends at its quote.  Between single quotes only the quote itself is written
  twice; between double quotes a backslash begins an escape, and one at the end of a line joins
  the lines without a space.

The readers of scalars spend one unit of fuel per word or character, and have one more than
there are characters.
-/

namespace ServiceCatalog.Yaml

set_option autoImplicit false

/-! ## Gaps -/

/-- What a gap between two words says. -/
def folded (gap : List Char) : List Char :=
  match gap.filter isBreak with
  | [] => gap
  | first :: others =>
      if first = '\n' then (if others.isEmpty then [' '] else others) else first :: others

/-- On some line behind the first of a gap there is a tab before the margin. -/
def tabBeforeMargin (margin : Nat) (gap : List Char) : Bool :=
  ((Text.splitWhen isBreak gap).drop 1).any fun spaces => (spaces.take margin).contains '\t'

/-! ## Plain scalars -/

/-- A plain scalar, the place behind it and the gap that follows, and whether that gap ends a
line. -/
structure PlainScalar where
  text : List Char
  behind : Cursor
  brokeLine : Bool
  deriving Repr

/-- The word of a plain scalar and what lies behind it.  Inside a flow collection a colon must
not stand before a sign of the collections or a question mark. -/
def plainWord? (inFlow : Bool) : List Char → Option (List Char × List Char)
  | [] => some ([], [])
  | character :: rest =>
      if isGap character then some ([], character :: rest)
      else if inFlow && character == ':'
          && rest.head?.any (fun sign => isFlowSign sign || sign == '?') then none
      else if (character == ':' && endsWord rest) || (inFlow && isFlowSign character) then
        some ([], character :: rest)
      else (plainWord? inFlow rest).map fun (word, behind) => (character :: word, behind)

/-- The words of a plain scalar behind a gap. -/
def plainWords? (inFlow : Bool) (margin : Nat) :
    Nat → List Char → Cursor → Option PlainScalar
  | 0, _, _ => none
  | fuel + 1, gap, cursor =>
      if cursor.atDocumentMark || cursor.rest.head? = some '#' then
        some ⟨[], cursor, gap.any isBreak⟩
      else do
        let (word, behind) ← plainWord? inFlow cursor.rest
        if word.isEmpty then return ⟨[], cursor, gap.any isBreak⟩
        else
          let text := folded gap ++ word
          let (nextGap, next) :=
            Cursor.span isGap ⟨cursor.line, cursor.column + word.length, behind⟩
          if tabBeforeMargin margin nextGap then none
          else if nextGap.isEmpty then return ⟨text, next, false⟩
          else if !inFlow && next.column < margin then
            return ⟨text, next, nextGap.any isBreak⟩
          else
            let more ← plainWords? inFlow margin fuel nextGap next
            return { more with text := text ++ more.text }

/-- The plain scalar at a place, whose further lines are indented at least to the margin. -/
def plainScalar? (inFlow : Bool) (margin : Nat) (cursor : Cursor) : Option PlainScalar :=
  plainWords? inFlow margin (cursor.rest.length + 1) [] cursor

/-! ## Quoted scalars -/

/-- The two kinds of quotes. -/
inductive Quote where
  | single
  | double
  deriving DecidableEq, Repr

/-- The sign of a kind of quotes. -/
def Quote.sign : Quote → Char
  | .single => '\x27'
  | .double => '"'

/-- The character that a letter behind a backslash stands for. -/
def letterEscape? (letter : Char) : Option Char :=
  [('0', '\x00'), ('a', '\x07'), ('b', '\x08'), ('t', '\t'), ('\t', '\t'), ('n', '\n'),
    ('v', '\x0B'), ('f', '\x0C'), ('r', '\r'), ('e', '\x1B'), (' ', ' '), ('"', '"'),
    ('/', '/'), ('\\', '\\'), ('N', '\x85'), ('_', '\xA0'), ('L', '\u2028'),
    ('P', '\u2029')].lookup letter

/-- How many hexadecimal digits follow a letter behind a backslash. -/
def codeLength? (letter : Char) : Option Nat :=
  [('x', 2), ('u', 4), ('U', 8)].lookup letter

/-- The character of a code point, which must not be half of a surrogate pair. -/
def charOfCode? (code : Nat) : Option Char :=
  if code.isValidChar then some (Char.ofNat code) else none

/-- The character of an escape behind its backslash, and how many characters write it. -/
def escape? : List Char → Option (Char × Nat)
  | [] => none
  | letter :: rest =>
      match codeLength? letter with
      | some length => do
          let digits := rest.take length
          let code ← Numeric.ofBase? 16 digits
          let character ← charOfCode? code
          if digits.length = length then return (character, length + 1) else none
      | none => (letterEscape? letter).map fun character => (character, 1)

/-- The text up to the closing quote, and the place behind it. -/
def quotedText? (quote : Quote) : Nat → Cursor → Option (List Char × Cursor)
  | 0, _ => none
  | fuel + 1, cursor =>
      let goOn (text : List Char) (next : Cursor) : Option (List Char × Cursor) :=
        (quotedText? quote fuel next).map fun (more, behind) => (text ++ more, behind)
      if cursor.atDocumentMark then none
      else
        match cursor.rest with
        | [] => none
        | character :: rest =>
            if isGap character then
              let (gap, next) := cursor.span isGap
              goOn (folded gap) next
            else if character = quote.sign then
              if quote = .single ∧ rest.head? = some quote.sign then
                goOn [character] (cursor.skip 2)
              else some ([], cursor.next)
            else if quote = .double ∧ character = '\\' then
              if rest.head?.any isBreak then
                let (gap, next) := (cursor.skip 2).span isGap
                goOn (gap.filter isBreak) next
              else do
                let (escaped, length) ← escape? rest
                goOn [escaped] (cursor.skip (length + 1))
            else goOn [character] cursor.next

/-- The quoted scalar whose opening quote stands at a place. -/
def quotedScalar? (quote : Quote) (cursor : Cursor) : Option (List Char × Cursor) :=
  quotedText? quote (cursor.rest.length + 1) cursor.next

end ServiceCatalog.Yaml
