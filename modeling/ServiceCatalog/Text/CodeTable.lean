/-!
# Tables of code points

A character class of the Unicode standard is a set of code points, and the sets used in this
library are unions of a few hundred ranges.  This module gives the two forms in which such a
set is written down, and the question asked of both: does a code point belong to it?

* A `CodeRange` is a first and a last code point, both included.
* A `SteppedRange` also carries a step.  In the bilingual blocks of the standard capital and
  small letters alternate, so the capitals of such a block are every second code point; a step
  of two writes the whole block as one entry.

The tables themselves live in the modules of the classes they describe.  Every one of them
lists code points above the basic range `0x00` to `0x7F` only: the classes of the basic
range are decided by comparisons, so that a statement about such text never opens a table.
-/

namespace ServiceCatalog.Text

set_option autoImplicit false

/-! ## Ranges -/

/-- A first and a last code point, both included. -/
abbrev CodeRange := Nat × Nat

/-- Every `step`-th code point from `first` to `last`. -/
structure SteppedRange where
  first : Nat
  last : Nat
  step : Nat
  deriving DecidableEq, Repr

/-- A range covers the code points between its ends. -/
def CodeRange.covers (range : CodeRange) (code : Nat) : Bool :=
  range.1 ≤ code && code ≤ range.2

/-- A stepped range covers its first code point and every step from there to its last. -/
def SteppedRange.covers (range : SteppedRange) (code : Nat) : Bool :=
  range.first ≤ code && code ≤ range.last && (code - range.first) % range.step == 0

/-! ## Membership -/

/-- Some range of the table covers the code point. -/
def inRanges (table : List CodeRange) (code : Nat) : Bool :=
  table.any fun range => CodeRange.covers range code

/-- Some stepped range of the table covers the code point. -/
def inSteppedRanges (table : List SteppedRange) (code : Nat) : Bool :=
  table.any fun range => range.covers code

/-- The characters of the basic range, whose classes need no table. -/
def isBasic (character : Char) : Bool := character.toNat < 0x80

end ServiceCatalog.Text
