/-!
# Layout

A layout is text with places at which a line may end, gathered in boxes.  It is written out so
that as much as possible stands on one line.

A box fits if it can be written on the rest of the line together with what stands behind it up to
the next place at which a line may end.  In a box that fits no line ends.  In a box that does not
fit, every line ends if the box is uniform; otherwise a line ends only where what follows, up to
the next place, would not fit.

A place has a blank width, which is how wide it is when the line goes on; a place that always ends
the line is endlessly wide.  A place can also move the next line in or out, and leave a comma at
the end of the line.
-/

namespace ServiceCatalog.Source

set_option autoImplicit false

/-! ## Layouts -/

/-- A width that no line has. -/
def endless : Nat := 65535

/-- A place at which a line may end. -/
structure Gap where
  blank : Nat
  shift : Int
  comma : Bool
  never : Bool
  deriving DecidableEq, Repr

/-- A layout. -/
inductive Layout where
  | text (characters : String)
  | gap (place : Gap)
  | box (uniform : Bool) (indent : Int) (limit : Option Nat) (content : List Layout)
  deriving Inhabited

namespace Layout

/-- A place that is a blank when the line goes on. -/
def space : Layout := .gap ⟨1, 0, false, false⟩

/-- A place that is nothing when the line goes on. -/
def softBreak : Layout := .gap ⟨0, 0, false, false⟩

/-- A place that ends the line. -/
def lineEnd (shift : Int) : Layout := .gap ⟨endless, shift, false, false⟩

/-- A place at which the line never ends. -/
def noBreak : Layout := .gap ⟨0, 0, false, true⟩

/-- A box in which either every line ends or none. -/
def uniformBox (indent : Int) (content : List Layout) : Layout := .box true indent none content

/-- A box in which lines end where they have to. -/
def filledBox (indent : Int) (content : List Layout) : Layout := .box false indent none content

/-! ## Widths -/

mutual

/-- The width on one line. -/
def width : Layout → Nat
  | .text characters => characters.utf8ByteSize
  | .gap place => place.blank
  | .box _ _ limit content =>
      let inner := widths content
      if limit.any (· < inner) then endless else inner

/-- The width of several layouts on one line. -/
def widths : List Layout → Nat
  | [] => 0
  | layout :: rest => layout.width + widths rest

end

/-- The width up to the next place at this level, or through to the end and then as far as it
goes behind it. -/
def reach (behind : Nat) : List Layout → Nat
  | [] => behind
  | .gap _ :: _ => 0
  | layout :: rest => layout.width + reach behind rest

/-! ## Writing -/

/-- What was written: the characters so far, the room on the line, the indent of the next line,
and blanks that are owed before the next character. -/
structure Page where
  written : List String
  room : Int
  indent : Int
  owed : Nat

/-- The width of a line. -/
def margin : Int := 89

/-- The least room that a line gets. -/
def leastRoom : Int := 60

/-- Writes characters. -/
def Page.put (characters : String) (page : Page) : Page :=
  let blanks := String.ofList (List.replicate page.owed ' ')
  { page with
    written := characters :: blanks :: page.written
    room := page.room - characters.utf8ByteSize
    owed := 0 }

/-- Goes on behind a place. -/
def Page.pass (place : Gap) (page : Page) : Page :=
  { page with owed := page.owed + place.blank, room := page.room - place.blank }

/-- Ends the line at a place. -/
def Page.turn (place : Gap) (page : Page) : Page :=
  let page := if place.comma then page.put "," else page
  let indent := page.indent + place.shift
  { page with
    written := "\n" :: page.written
    room := max (margin - indent) leastRoom
    owed := indent.toNat }

/-- How the lines of a box are ended: never, always, or where they have to. -/
inductive Mode where
  | onOneLine
  | uniform
  | filled
  deriving DecidableEq

mutual

/-- Writes a layout that `behind` follows. -/
def put (mode : Mode) (behind : Nat) (page : Page) : Layout → Page
  | .text characters => page.put characters
  | .gap place =>
      let fits := place.never ||
        match mode with
        | .onOneLine => true
        | .uniform => false
        | .filled => (place.blank + behind : Int) ≤ page.room
      if fits then page.pass place else page.turn place
  | .box uniform indent limit content =>
      let inner := widths content
      let size := if limit.any (· < inner) then endless else inner
      if (size + behind : Int) ≤ page.room then
        putAll .onOneLine behind page content
      else
        let mode := if uniform then Mode.uniform else Mode.filled
        let after := putAll mode behind { page with indent := page.indent + indent } content
        { after with indent := page.indent }

/-- Writes layouts one after the other. -/
def putAll (mode : Mode) (behind : Nat) (page : Page) : List Layout → Page
  | [] => page
  | layout :: rest => putAll mode behind (put mode (reach behind rest) page layout) rest

end

/-- The text of a layout. -/
def render (layout : Layout) : String :=
  String.join (put .uniform 0 ⟨[], margin, 0, 0⟩ layout).written.reverse

end Layout

end ServiceCatalog.Source
