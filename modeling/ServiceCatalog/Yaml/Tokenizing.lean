import ServiceCatalog.Yaml.BlockScalar
import ServiceCatalog.Yaml.Folding
import ServiceCatalog.Yaml.Tag

/-!
# From text to tokens

Outside the flow collections the indentation of a text marks where its collections begin and end.
A block collection begins at a column greater than that of the collection around it, and ends
before the next token at a smaller column (`indentTo`, `unindentHere`).

A key need not be announced.  Only the colon behind it shows that something was a key, so a place
where a key might begin is remembered (`PossibleKey`) until the colon comes, and the token of the
key, and perhaps the beginning of a mapping, are then inserted at that place.  Such a key lies
in one line and is at most 1024 characters long.  In each collection there is one such place at a
time.  At the column of the block mapping that is being read there must be a key, so there it is
an error if the colon does not come.

Every step reads at least one character, so the fuel of a run is the number of characters.
-/

namespace ServiceCatalog.Yaml

set_option autoImplicit false

/-- A place where a key may begin: its number among the tokens, its line and column, and whether
there has to be a key. -/
structure PossibleKey where
  place : Nat
  line : Nat
  column : Nat
  required : Bool
  deriving DecidableEq, Repr

/-- The longest key that is not announced. -/
def longestKey : Nat := 1024

/-- How far a text has been read. -/
structure Tokenizing where
  /-- What is still to be read. -/
  cursor : Cursor
  /-- What was read. -/
  tokens : Array Token
  /-- The columns of the open block collections, the innermost first. -/
  indents : List Nat
  /-- The possible key of the innermost open collection. -/
  possibleKey : Option PossibleKey
  /-- The possible keys of the collections around the open flow collections. -/
  outerKeys : List (Option PossibleKey)
  /-- A key that is not announced may begin at the next token. -/
  keyAllowed : Bool
  deriving Repr

namespace Tokenizing

/-- Nothing has been read yet. -/
def ofText (characters : List Char) : Tokenizing :=
  ⟨.ofText characters, #[], [], none, [], true⟩

/-- A flow collection is open. -/
def inFlow (state : Tokenizing) : Bool := !state.outerKeys.isEmpty

/-- Adds a token that was read. -/
def push (state : Tokenizing) (token : Token) : Tokenizing :=
  { state with tokens := state.tokens.push token }

/-- Adds a token of a number of signs. -/
def pushSigns (state : Tokenizing) (count : Nat) (token : Token) : Tokenizing :=
  { state.push token with cursor := state.cursor.skip count }

/-! ## Indentation -/

/-- The column of the innermost block collection lies before a column. -/
def isDeeper (state : Tokenizing) (column : Nat) : Bool := state.indents.head?.all (· < column)

/-- Begins a block collection at a column, if that is deeper than the one around it.  The token
of its beginning gets a number among the tokens. -/
def indentTo (state : Tokenizing) (column place : Nat) (start : Token) : Tokenizing :=
  if !state.inFlow && state.isDeeper column then
    { state with
      indents := column :: state.indents
      tokens := state.tokens.insertIdxIfInBounds place start }
  else state

/-- Begins a block collection with the next token. -/
def indentHere (state : Tokenizing) (start : Token) : Tokenizing :=
  state.indentTo state.cursor.column state.tokens.size start

/-- Ends the block collections that `ends` selects by their columns. -/
def unindentWhile (ends : Nat → Bool) (state : Tokenizing) : Tokenizing :=
  if state.inFlow then state
  else
    let ended := state.indents.takeWhile ends
    { state with
      indents := state.indents.drop ended.length
      tokens := state.tokens ++ (ended.map fun _ => Token.blockEnd).toArray }

/-- Ends the block collections at columns beyond that of the next token. -/
def unindentHere (state : Tokenizing) : Tokenizing :=
  state.unindentWhile (state.cursor.column < ·)

/-- Ends all block collections. -/
def unindentAll (state : Tokenizing) : Tokenizing := state.unindentWhile fun _ => true

/-! ## Possible keys -/

/-- Gives up a possible key. -/
def giveUp? : Option PossibleKey → Option (Option PossibleKey)
  | some key => if key.required then none else some none
  | none => some none

/-- Gives up the possible key of the innermost collection. -/
def dropKey? (state : Tokenizing) : Option Tokenizing := do
  let key ← giveUp? state.possibleKey
  return { state with possibleKey := key }

/-- A key that begins there cannot reach to a place. -/
def isStale (cursor : Cursor) (key : PossibleKey) : Bool :=
  key.line < cursor.line || key.column + longestKey < cursor.column

/-- Gives up a possible key that cannot reach to a place. -/
def freshKey? (cursor : Cursor) (key : Option PossibleKey) : Option (Option PossibleKey) :=
  if key.any (isStale cursor) then giveUp? key else some key

/-- Gives up all possible keys that cannot reach to the next token. -/
def dropStaleKeys? (state : Tokenizing) : Option Tokenizing := do
  let key ← freshKey? state.cursor state.possibleKey
  let outerKeys ← state.outerKeys.mapM (freshKey? state.cursor)
  return { state with possibleKey := key, outerKeys := outerKeys }

/-- Remembers that a key may begin with the next token. -/
def saveKey? (state : Tokenizing) : Option Tokenizing :=
  if state.keyAllowed then do
    let state ← state.dropKey?
    let cursor := state.cursor
    return { state with
      possibleKey := some
        { place := state.tokens.size
          line := cursor.line
          column := cursor.column
          required := !state.inFlow && state.indents.head? == some cursor.column } }
  else some state

/-- Says whether a key may begin at the next token. -/
def allowKey (state : Tokenizing) (keyAllowed : Bool) : Tokenizing :=
  { state with keyAllowed := keyAllowed }

/-! ## One token -/

/-- A directive. -/
def directive? (state : Tokenizing) : Option Tokenizing := do
  let state ← state.unindentAll.dropKey?
  let (token, next) ← directiveAt? state.cursor
  return { state.push token with cursor := next, keyAllowed := false }

/-- A mark of three signs. -/
def documentMark? (state : Tokenizing) (token : Token) : Option Tokenizing := do
  let state ← state.unindentAll.dropKey?
  return (state.pushSigns 3 token).allowKey false

/-- The beginning of a flow collection, which may be a key. -/
def openFlow? (state : Tokenizing) (token : Token) : Option Tokenizing := do
  let state ← state.saveKey?
  let state := { state with
    outerKeys := state.possibleKey :: state.outerKeys
    possibleKey := none }
  return (state.pushSigns 1 token).allowKey true

/-- The end of a flow collection. -/
def closeFlow? (state : Tokenizing) (token : Token) : Option Tokenizing := do
  let state ← state.dropKey?
  let state := match state.outerKeys with
    | [] => state
    | key :: keys => { state with possibleKey := key, outerKeys := keys }
  return (state.pushSigns 1 token).allowKey false

/-- A comma between the entries of a flow collection. -/
def flowEntry? (state : Tokenizing) : Option Tokenizing := do
  let state ← state.dropKey?
  return (state.pushSigns 1 .flowEntry).allowKey true

/-- A hyphen before an entry of a block sequence. -/
def blockEntry? (state : Tokenizing) : Option Tokenizing := do
  if !state.inFlow && !state.keyAllowed then none
  else
    let state ← (state.indentHere .blockSequenceStart).dropKey?
    return (state.pushSigns 1 .blockEntry).allowKey true

/-- A question mark before a key. -/
def announcedKey? (state : Tokenizing) : Option Tokenizing := do
  if !state.inFlow && !state.keyAllowed then none
  else
    let state ← (state.indentHere .blockMappingStart).dropKey?
    return (state.pushSigns 1 .key).allowKey (!state.inFlow)

/-- A colon before a value: behind a possible key, or behind one that was announced. -/
def value? (state : Tokenizing) : Option Tokenizing :=
  match state.possibleKey with
  | some key =>
      let state := { state with
        tokens := state.tokens.insertIdxIfInBounds key.place .key
        possibleKey := none }
      let state := state.indentTo key.column key.place .blockMappingStart
      some ((state.pushSigns 1 .value).allowKey false)
  | none =>
      if state.inFlow then some ((state.pushSigns 1 .value).allowKey false)
      else if !state.keyAllowed then none
      else some (((state.indentHere .blockMappingStart).pushSigns 1 .value).allowKey true)

/-- Something that may be a key or part of one. -/
def property? (state : Tokenizing) (read : Option (Token × Cursor)) : Option Tokenizing := do
  let state ← state.saveKey?
  let (token, next) ← read
  return { state.push token with cursor := next, keyAllowed := false }

/-- An alias or an anchor. -/
def named? (state : Tokenizing) (token : String → Token) : Option Tokenizing :=
  state.property? ((anchorName? state.cursor).map fun (name, next) => (token name, next))

/-- A block scalar. -/
def blockText? (state : Tokenizing) (literal : Bool) : Option Tokenizing := do
  let state ← state.dropKey?
  let (text, next) ← blockScalar? literal state.indents.head? state.cursor.next
  return { state.push (.scalar false (String.ofList text)) with
    cursor := next, keyAllowed := true }

/-- A scalar in quotes. -/
def quotedText? (state : Tokenizing) (quote : Quote) : Option Tokenizing :=
  state.property? ((quotedScalar? quote state.cursor).map fun (text, next) =>
    (.scalar false (String.ofList text), next))

/-- A plain scalar.  Behind one that ends its line a key may begin. -/
def plainText? (state : Tokenizing) : Option Tokenizing := do
  let state ← state.saveKey?
  let margin := (state.indents.head?.map (· + 1)).getD 0
  let scalar ← plainScalar? state.inFlow margin state.cursor
  return { state.push (.scalar true (String.ofList scalar.text)) with
    cursor := scalar.behind, keyAllowed := scalar.brokeLine }

/-- A plain scalar may begin with a character, given what follows it. -/
def startsPlain (inFlow : Bool) (character : Char) (rest : List Char) : Bool :=
  !(isGap character || "-?:,[]\x7b\x7d#&*!|>\x27\"%@\x60".toList.contains character)
    || (character == '-' && !rest.head?.any isSpace)
    || (!inFlow && (character == '?' || character == ':') && !endsWord rest)

/-- Reads the token that begins with a character. -/
def token? (state : Tokenizing) (character : Char) (rest : List Char) : Option Tokenizing :=
  let atLineStart := state.cursor.column == 0
  let alone := endsWord rest
  if atLineStart && character == '%' then state.directive?
  else if atLineStart && isTriple '-' state.cursor.rest then state.documentMark? .documentStart
  else if atLineStart && isTriple '.' state.cursor.rest then state.documentMark? .documentEnd
  else if character = '[' then state.openFlow? .flowSequenceStart
  else if character = '\x7b' then state.openFlow? .flowMappingStart
  else if character = ']' then state.closeFlow? .flowSequenceEnd
  else if character = '\x7d' then state.closeFlow? .flowMappingEnd
  else if character = ',' then state.flowEntry?
  else if character == '-' && alone then state.blockEntry?
  else if character == '?' && (state.inFlow || alone) then state.announcedKey?
  else if character == ':' && (state.inFlow || alone) then state.value?
  else if character = '*' then state.named? .alias
  else if character = '&' then state.named? .anchor
  else if character = '!' then state.property? (tagAt? state.inFlow state.cursor)
  else if character == '|' && !state.inFlow then state.blockText? true
  else if character == '>' && !state.inFlow then state.blockText? false
  else if character = Quote.single.sign then state.quotedText? .single
  else if character = Quote.double.sign then state.quotedText? .double
  else if startsPlain state.inFlow character rest then state.plainText?
  else none

/-! ## All tokens -/

/-- Skips spaces, comments and line breaks before the next token.  Tabs are skipped too, except
where a key may begin outside the flow collections.  There a key may begin on every new line. -/
def skipGap : Nat → Tokenizing → Tokenizing
  | 0, state => state
  | fuel + 1, state =>
      let tabs := state.inFlow || !state.keyAllowed
      let cursor := state.cursor.skipWhile fun character =>
        character == ' ' || (tabs && character == '\t')
      let cursor := cursor.skipComment
      if cursor.rest.head?.any isBreak then
        skipGap fuel { state with
          cursor := cursor.next, keyAllowed := !state.inFlow || state.keyAllowed }
      else { state with cursor := cursor }

/-- Reads the remaining tokens. -/
def run? : Nat → Tokenizing → Option (List Token)
  | 0, _ => none
  | fuel + 1, state => do
      let state ← (state.skipGap (state.cursor.rest.length + 1)).dropStaleKeys?
      let state := state.unindentHere
      match state.cursor.rest with
      | [] =>
          let state ← state.unindentAll.dropKey?
          return state.tokens.toList
      | character :: rest =>
          let state ← state.token? character rest
          run? fuel state

end Tokenizing

/-- The tokens of a text. -/
def tokens? (text : String) : Option (List Token) :=
  let characters := text.toList
  if characters.all isAllowed then
    Tokenizing.run? (characters.length + 1) (.ofText (uniformBreaks characters))
  else none

end ServiceCatalog.Yaml
