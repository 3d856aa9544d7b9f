import ServiceCatalog.Numeric.Digits
import ServiceCatalog.Yaml.Cursor

/-!
# Block scalars

A block scalar is a text in lines of its own, all indented to one column at least.  Its header
stands behind a bar, for a literal text, or an angle bracket, for a folded one, and may say two
things in either order: how far the text is indented beyond the collection around it, and what
becomes of the line breaks at the end (`Chomping`).  A text whose header gives no indentation is
indented as far as its first line that is not empty, or as the deepest of the empty lines before
that one.

In a folded text the break between two lines becomes a space, or vanishes before empty lines,
unless one of the two lines begins with a space or a tab.
-/

namespace ServiceCatalog.Yaml

set_option autoImplicit false

/-! ## The header -/

/-- What becomes of the line breaks at the end of a text: all vanish, one stays, or all stay. -/
inductive Chomping where
  | strip
  | clip
  | keep
  deriving DecidableEq, Repr

/-- The sign of a kind of chomping, if one stands here, and the place behind it. -/
def readChomping (cursor : Cursor) : Option Chomping × Cursor :=
  match cursor.rest with
  | '-' :: _ => (some .strip, cursor.next)
  | '+' :: _ => (some .keep, cursor.next)
  | _ => (none, cursor)

/-- The digit of an indentation, if one stands here, and the place behind it.  It is not zero. -/
def readIncrement? (cursor : Cursor) : Option (Option Nat × Cursor) :=
  match cursor.rest with
  | [] => some (none, cursor)
  | digit :: _ =>
      if digit = '0' then none
      else if digit.isDigit then some (some (Numeric.digitValue digit), cursor.next)
      else some (none, cursor)

/-- The header of a block scalar and the place where its lines begin. -/
def readHeader? (cursor : Cursor) : Option (Chomping × Option Nat × Cursor) := do
  let (before, cursor) := readChomping cursor
  let (increment, cursor) ← readIncrement? cursor
  let (chomping, cursor) := if before.isSome then (before, cursor) else readChomping cursor
  let cursor ← cursor.nextLine?
  return (chomping.getD .clip, increment, cursor)

/-! ## Lines -/

/-- The empty lines from a place on, which hold spaces at most: their breaks, the deepest column
in them, and the place where the next line begins behind its indentation.  Spaces are part of
the indentation up to the column `indentation`, or all of them if it is not known; a tab must not
stand among them. -/
def emptyLines? (indentation : Option Nat) : Nat → Cursor → Option (List Char × Nat × Cursor)
  | 0, _ => none
  | fuel + 1, cursor =>
      let spaces := cursor.rest.takeWhile (· == ' ')
      let room := (indentation.map (· - cursor.column)).getD spaces.length
      let start := cursor.skip (min spaces.length room)
      match start.rest with
      | [] => some ([], start.column, start)
      | character :: _ =>
          if character = '\t' ∧ indentation.all (start.column < ·) then none
          else if isBreak character then
            (emptyLines? indentation fuel start.next).map fun (breaks, deepest, behind) =>
              (character :: breaks, max start.column deepest, behind)
          else some ([], start.column, start)

/-- What lies before a line of a block scalar: the break that ended the line before, the breaks
of the empty lines behind it, and whether that line began with a space or a tab. -/
structure LineGap where
  lineBreak : List Char
  emptyLines : List Char
  behindSpace : Bool
  deriving DecidableEq, Repr

/-- What a gap before a line says, in a literal or a folded text. -/
def LineGap.text (gap : LineGap) (literal beforeSpace : Bool) : List Char :=
  if !literal && gap.lineBreak == ['\n'] && !gap.behindSpace && !beforeSpace then
    (if gap.emptyLines.isEmpty then [' '] else gap.emptyLines)
  else gap.lineBreak ++ gap.emptyLines

/-- What a gap behind the last line says. -/
def LineGap.ending (gap : LineGap) : Chomping → List Char
  | .strip => []
  | .clip => gap.lineBreak
  | .keep => gap.lineBreak ++ gap.emptyLines

/-- The lines of a block scalar behind a gap, and the place behind them. -/
def blockLines? (literal : Bool) (chomping : Chomping) (indentation : Nat) :
    Nat → LineGap → Cursor → Option (List Char × Cursor)
  | 0, _, _ => none
  | fuel + 1, gap, cursor =>
      if cursor.column = indentation ∧ cursor.rest ≠ [] then do
        let startsWithSpace := cursor.rest.head?.any isSpace
        let (line, lineEnd) := cursor.span (!isBreak ·)
        let lineBreak := lineEnd.rest.take 1
        let (emptyLines, _, next) ←
          emptyLines? (some indentation) (lineEnd.rest.length + 1) lineEnd.next
        let (more, behind) ←
          blockLines? literal chomping indentation fuel ⟨lineBreak, emptyLines, startsWithSpace⟩
            next
        return (gap.text literal startsWithSpace ++ line ++ more, behind)
      else some (gap.ending chomping, cursor)

/-- The block scalar whose header stands at a place, in a collection indented to `outer`, if it is
in one. -/
def blockScalar? (literal : Bool) (outer : Option Nat) (cursor : Cursor) :
    Option (List Char × Cursor) := do
  let (chomping, increment, start) ← readHeader? cursor
  let given := increment.map (outer.getD 0 + ·)
  let (emptyLines, deepest, start) ← emptyLines? given (start.rest.length + 1) start
  let margin := (outer.map (· + 1)).getD 0
  let indentation := given.getD (max 1 (max deepest margin))
  blockLines? literal chomping indentation (start.rest.length + 1) ⟨[], emptyLines, false⟩ start

end ServiceCatalog.Yaml
