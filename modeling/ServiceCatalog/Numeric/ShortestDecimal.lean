import ServiceCatalog.Numeric.Binary64

/-!
# Shortest decimals

A floating point number is written with the fewest digits that read back as that number, and
among the decimals with that many digits with the one nearest to it.

The reals that read back as a number form an interval around it.  Its ends lie half way to the
two neighbours, and belong to it exactly if the significand is even, because reading rounds a
half to even.  Below a power of two the numbers lie twice as dense, so there the lower end is
half as far away.

A decimal with `n` digits is a point of the grid with mesh `10^k` for the `k` that gives the
number `n` digits before the point.  If the interval holds a point of the grid at all, it holds
one of the two that enclose the number, so two comparisons decide each grid
(`gridPoint?`), and the first of the grids for `n = 1, 2, …, 17` with a hit gives the digits.

The last section fixes how digits and exponent are laid out: in full from `0.00001` to
numbers of sixteen digits before the point, otherwise with an exponent that carries its sign.
-/

namespace ServiceCatalog.Numeric

set_option autoImplicit false

/-! ## The interval and the grids -/

/-- The decimal `digits * 10^power`. -/
structure Decimal where
  digits : Nat
  power : Int
  deriving DecidableEq, Repr

/-- Whole multiples of a quarter of the last binary place: the number, and the two ends of the
interval of reals that read back as it. -/
structure Interval where
  lower : Nat
  centre : Nat
  upper : Nat
  closed : Bool
  deriving DecidableEq, Repr

/-- The interval around `significand * 2^exponent`. -/
def Interval.around (significand : Nat) (exponent : Int) : Interval :=
  let narrow := significand == Binary64.leastNormal && Binary64.leastExponent < exponent
  ⟨4 * significand - (if narrow then 1 else 2), 4 * significand, 4 * significand + 2,
    significand % 2 == 0⟩

/-- The point `point * below` lies between the ends times `above`. -/
def Interval.holds (interval : Interval) (above below point : Nat) : Bool :=
  let position := point * below
  if interval.closed then
    interval.lower * above ≤ position && position ≤ interval.upper * above
  else interval.lower * above < position && position < interval.upper * above

/-- The distance between a point of the grid and the number, both times the denominators. -/
def Interval.distance (interval : Interval) (above below point : Nat) : Nat :=
  let position := point * below
  let centre := interval.centre * above
  if position ≤ centre then centre - position else position - centre

/-- The point of the grid with mesh `10^power` to write `significand * 2^exponent` by, if one
of the two that enclose the number lies in its interval.  Of two that do, the nearer is taken,
and at equal distance the even one. -/
def gridPoint? (significand : Nat) (exponent power : Int) : Option Nat :=
  let interval := Interval.around significand exponent
  let quarter := exponent - 2
  let above := Nat.pow 2 quarter.toNat * Nat.pow 10 (-power).toNat
  let below := Nat.pow 10 power.toNat * Nat.pow 2 (-quarter).toNat
  let left := interval.centre * above / below
  let right := left + 1
  match interval.holds above below left, interval.holds above below right with
  | false, false => none
  | true, false => some left
  | false, true => some right
  | true, true =>
      let toLeft := interval.distance above below left
      let toRight := interval.distance above below right
      if toLeft < toRight then some left
      else if toRight < toLeft then some right
      else if left % 2 = 0 then some left
      else some right

/-! ## The digits -/

/-- The exponent of the leading decimal digit of a positive number.  The number is shifted by
a power of ten that makes every number of the format at least one. -/
def leadingPower (significand : Nat) (exponent : Int) : Int :=
  let (above, below) := (Binary64.mk false significand exponent).ratio
  ((decimalDigits (above * Nat.pow 10 330 / below)).length : Int) - 1 - 330

/-- Moves zeros at the end of the digits into the power. -/
def Decimal.strip : Nat → Decimal → Decimal
  | 0, decimal => decimal
  | fuel + 1, decimal =>
      if decimal.digits ≠ 0 ∧ decimal.digits % 10 = 0 then
        Decimal.strip fuel ⟨decimal.digits / 10, decimal.power + 1⟩
      else decimal

/-- The first grid with a hit, counting up from `count` digits. -/
def searchGrids (significand : Nat) (exponent leading : Int) : Nat → Nat → Option Decimal
  | 0, _ => none
  | grids + 1, count =>
      let power := leading - count + 1
      match gridPoint? significand exponent power with
      | some point => some (Decimal.strip 20 ⟨point, power⟩)
      | none => searchGrids significand exponent leading grids (count + 1)

/-- The shortest decimal that reads back as `significand * 2^exponent`, the nearest of its
length.  Seventeen digits always suffice; the whole value stands in where there is nothing to
search. -/
def shortestDecimal (significand : Nat) (exponent : Int) : Decimal :=
  if significand = 0 then ⟨0, 0⟩
  else
    match searchGrids significand exponent (leadingPower significand exponent) 17 1 with
    | some decimal => decimal
    | none => ⟨significand * Nat.pow 2 exponent.toNat, 0⟩

/-! ## Layout -/

/-- The leading digits, a point, and the digits after it, `0` if there are none. -/
def withPoint (digits : List Char) (before : Nat) : List Char :=
  let whole := digits.take before ++ List.replicate (before - digits.length) '0'
  let fraction := digits.drop before
  whole ++ ['.'] ++ (if fraction.isEmpty then ['0'] else fraction)

/-- Digits with an exponent: one digit before the point, and no point if it is the only one. -/
def withExponent (digits : List Char) (leading : Int) : List Char :=
  digits.take 1 ++ (if digits.length ≤ 1 then [] else '.' :: digits.drop 1) ++
    ['e', if leading < 0 then '-' else '+'] ++ decimalDigits leading.natAbs

/-- The written form of a decimal: in full if its leading digit stands between the fifth
decimal place and the sixteenth place before the point, otherwise with an exponent. -/
def Decimal.layout (decimal : Decimal) : List Char :=
  let digits := decimalDigits decimal.digits
  let leading := decimal.power + digits.length - 1
  if decimal.digits = 0 then ['0', '.', '0']
  else if leading < -5 ∨ 15 < leading then withExponent digits leading
  else if leading < 0 then
    ['0', '.'] ++ List.replicate (leading.natAbs - 1) '0' ++ digits
  else withPoint digits (leading.toNat + 1)

/-- The shortest text that reads back as the number. -/
def Binary64.shortText (number : Binary64) : String :=
  number.signText ++
    String.ofList (shortestDecimal number.significand number.exponent).layout

end ServiceCatalog.Numeric
