import ServiceCatalog.Text.Utf8
import ServiceCatalog.Yaml.Node
import ServiceCatalog.Yaml.Tokenizing

/-!
# From tokens to a document

A text holds one document at most.  Directives may stand before the mark that begins it, and
marks that end it may follow.  The readers of this module take tokens from the front and answer
with a node, or fail.

Where a node is missing between two tokens, an empty scalar is read.  In a sequence in flow a
single pair may stand among the items without braces; if its key is missing, the token in place
of the key is lost.

Anchors are numbered in the order of the text by how many names are known before them.  An anchor
whose name is known gets a new number for that name.

Every call of a reader takes one unit of fuel.  At most three calls are made per token.
-/

namespace ServiceCatalog.Yaml

set_option autoImplicit false

/-! ## What is left -/

/-- The tokens that are left, and the numbers of the names of anchors. -/
structure Remaining where
  tokens : List Token
  anchors : List (String × Nat)
  deriving Repr

/-- A reader takes tokens from the front, or fails. -/
abbrev Reading := StateT Remaining Option

namespace Reading

/-- The next token is looked at. -/
def peek : Reading (Option Token) := do return (← get).tokens.head?

/-- The next token is dropped. -/
def drop : Reading Unit :=
  modify fun remaining => { remaining with tokens := remaining.tokens.drop 1 }

/-- The next token is a given one, and is taken. -/
def takeIf (token : Token) : Reading Bool := do
  if (← peek) = some token then
    drop
    return true
  else return false

/-- The next token must be a given one, and is taken. -/
def expect (token : Token) : Reading Unit := do
  if !(← takeIf token) then failure

/-- The next token is one of some. -/
def isAtOneOf (tokens : List Token) : Reading Bool := do
  return (← peek).any tokens.contains

/-- The number of a new anchor. -/
def newAnchor (name : String) : Reading Nat := do
  let remaining ← get
  let number := remaining.anchors.length
  set { remaining with
    anchors := (name, number) :: remaining.anchors.filter fun known => known.1 != name }
  return number

/-- The number of the anchor that an alias names. -/
def anchorNumber (name : String) : Reading Nat := do
  match (← get).anchors.lookup name with
  | some number => return number
  | none => failure

end Reading

open Reading

/-! ## Properties -/

/-- What the handles of tags stand for. -/
abbrev Handles := List (String × TagText)

/-- The handles that need no directive. -/
def knownHandles : Handles :=
  [("!", Text.encode "!".toList), ("!!", Text.encode "tag:yaml.org,2002:".toList)]

/-- The tag that a handle and a suffix make. -/
def resolvedTag? (handles : Handles) (handle : String) (suffix : TagText) : Option TagText :=
  if handle = "" then some suffix
  else (handles.lookup handle).map (· ++ suffix)

/-- An anchor, if there is one here. -/
def readAnchor : Reading (Option Nat) := do
  match ← peek with
  | some (.anchor name) =>
      drop
      return some (← newAnchor name)
  | _ => return none

/-- A tag, if there is one here. -/
def readTag (handles : Handles) : Reading (Option TagText) := do
  match ← peek with
  | some (.tag handle suffix) =>
      drop
      match resolvedTag? handles handle suffix with
      | some tag => return some tag
      | none => failure
  | _ => return none

/-- An anchor and a tag, in either order, as far as they are here. -/
def readProperties (handles : Handles) : Reading Properties := do
  match ← readAnchor with
  | some anchor => return ⟨some anchor, ← readTag handles⟩
  | none =>
      let tag ← readTag handles
      return ⟨← readAnchor, tag⟩

/-- The tag of a scalar.  An exclamation mark alone is none. -/
def scalarTag (tag : Option TagText) : Option TagText :=
  if tag = some (Text.encode "!".toList) then none else tag

/-! ## Nodes -/

/-- Where a node stands.  Only outside the flow collections there are block collections, and only
in a block mapping a sequence may stand at the column of its key. -/
inductive Position where
  | flow
  | block
  | inMapping
  deriving DecidableEq, Repr

mutual

/-- A node. -/
def readNode (handles : Handles) : Nat → Position → Reading Node
  | 0, _ => failure
  | fuel + 1, position => do
      match ← peek with
      | some (.alias name) =>
          drop
          return .alias (← anchorNumber name)
      | _ =>
          let properties ← readProperties handles
          match ← peek with
          | some .blockEntry =>
              if position = .inMapping then
                return .sequence properties (← readColumnItems handles fuel)
              else if properties = .none then failure
              else return .scalar properties true ""
          | some (.scalar plain text) =>
              drop
              return .scalar { properties with tag := scalarTag properties.tag } plain text
          | some .flowSequenceStart =>
              drop
              return .sequence properties (← readFlowItems handles fuel true)
          | some .flowMappingStart =>
              drop
              return .mapping properties (← readFlowEntries handles fuel true)
          | some .blockSequenceStart =>
              if position = .flow then failure
              drop
              return .sequence properties (← readBlockItems handles fuel)
          | some .blockMappingStart =>
              if position = .flow then failure
              drop
              return .mapping properties (← readBlockEntries handles fuel)
          | _ =>
              if properties = .none then failure
              else return .scalar properties true ""

/-- A node, or an empty scalar if one of some tokens is next. -/
def readNodeUnless (handles : Handles) : Nat → Position → List Token → Reading Node
  | 0, _, _ => failure
  | fuel + 1, position, tokens => do
      if ← isAtOneOf tokens then return .empty else readNode handles fuel position

/-- The items of a block sequence. -/
def readBlockItems (handles : Handles) : Nat → Reading (List Node)
  | 0 => failure
  | fuel + 1 => do
      if ← takeIf .blockEntry then
        let item ← readNodeUnless handles fuel .block [.blockEntry, .blockEnd]
        return item :: (← readBlockItems handles fuel)
      else
        expect .blockEnd
        return []

/-- The items of a sequence that stands at the column of its key. -/
def readColumnItems (handles : Handles) : Nat → Reading (List Node)
  | 0 => failure
  | fuel + 1 => do
      if ← takeIf .blockEntry then
        let item ← readNodeUnless handles fuel .block [.blockEntry, .key, .value, .blockEnd]
        return item :: (← readColumnItems handles fuel)
      else return []

/-- The entries of a block mapping. -/
def readBlockEntries (handles : Handles) : Nat → Reading (List (Node × Node))
  | 0 => failure
  | fuel + 1 => do
      if ← takeIf .key then
        let key ← readNodeUnless handles fuel .inMapping [.key, .value, .blockEnd]
        let value ←
          if ← takeIf .value then
            readNodeUnless handles fuel .inMapping [.key, .value, .blockEnd]
          else pure .empty
        return (key, value) :: (← readBlockEntries handles fuel)
      else
        expect .blockEnd
        return []

/-- The items of a flow sequence, up to its closing bracket. -/
def readFlowItems (handles : Handles) : Nat → Bool → Reading (List Node)
  | 0, _ => failure
  | fuel + 1, first => do
      if ← takeIf .flowSequenceEnd then return []
      if !first then expect .flowEntry
      if ← takeIf .key then
        let pair ← readPair handles fuel
        return .mapping .none [pair] :: (← readFlowItems handles fuel false)
      else if ← takeIf .flowSequenceEnd then return []
      else
        let item ← readNode handles fuel .flow
        return item :: (← readFlowItems handles fuel false)

/-- A pair among the items of a flow sequence. -/
def readPair (handles : Handles) : Nat → Reading (Node × Node)
  | 0 => failure
  | fuel + 1 => do
      let keyIsMissing ← isAtOneOf [.value, .flowEntry, .flowSequenceEnd]
      let key ← if keyIsMissing then do
          drop
          pure .empty
        else readNode handles fuel .flow
      let value ←
        if ← takeIf .value then
          readNodeUnless handles fuel .flow [.flowEntry, .flowSequenceEnd]
        else pure .empty
      return (key, value)

/-- The entries of a flow mapping, up to its closing brace. -/
def readFlowEntries (handles : Handles) : Nat → Bool → Reading (List (Node × Node))
  | 0, _ => failure
  | fuel + 1, first => do
      if ← takeIf .flowMappingEnd then return []
      if !first then expect .flowEntry
      if ← takeIf .key then
        let key ← readNodeUnless handles fuel .flow [.value, .flowEntry, .flowMappingEnd]
        let value ←
          if ← takeIf .value then
            readNodeUnless handles fuel .flow [.flowEntry, .flowMappingEnd]
          else pure .empty
        return (key, value) :: (← readFlowEntries handles fuel false)
      else if ← takeIf .flowMappingEnd then return []
      else
        let key ← readNode handles fuel .flow
        return (key, .empty) :: (← readFlowEntries handles fuel false)

end

/-! ## Documents -/

/-- The handles that directives define, at most one directive for each and one for the version,
which must be one of the two known ones. -/
def readDirectives : Nat → Bool → Handles → Reading Handles
  | 0, _, _ => failure
  | fuel + 1, versionGiven, handles => do
      match ← peek with
      | some (.versionDirective major minor) =>
          if versionGiven || major != 1 || !(minor == 1 || minor == 2) then failure
          drop
          readDirectives fuel true handles
      | some (.tagDirective handle stem) =>
          if (handles.lookup handle).isSome then failure
          drop
          readDirectives fuel versionGiven ((handle, stem) :: handles)
      | _ => return handles

/-- The next token begins a document with a mark, or directives before one. -/
def isAtDocumentStart : Reading Bool := do
  match ← peek with
  | some (.versionDirective _ _) => return true
  | some (.tagDirective _ _) => return true
  | some .documentStart => return true
  | _ => return false

/-- The content of a document behind its mark is missing. -/
def isAtMissingContent : Reading Bool := do
  return (← isAtDocumentStart) || (← isAtOneOf [.documentEnd]) || (← peek).isNone

/-- The root of the only document of a text.  A text without a document has none. -/
def readDocument (fuel : Nat) : Reading (Option Node) := do
  if (← peek).isNone then return none
  let root ←
    if ← isAtDocumentStart then do
      let handles ← readDirectives fuel false []
      expect .documentStart
      if ← isAtMissingContent then pure .empty
      else readNode (handles ++ knownHandles) fuel .block
    else readNode knownHandles fuel .block
  modify fun remaining =>
    { remaining with tokens := remaining.tokens.dropWhile (· == .documentEnd) }
  if (← peek).isSome then failure
  return some root

/-- The root of the only document of a text: `none` if the text cannot be read, `some none` if
it holds no document. -/
def document? (text : String) : Option (Option Node) := do
  let tokens ← tokens? text
  let (root, _) ← (readDocument (3 * tokens.length + 3)).run ⟨tokens, []⟩
  return root

end ServiceCatalog.Yaml
