import ValueArena.Number.BinaryFormat

/-!
Decimal text of binary floating-point numbers: the fewest digits that read back as the same number,
and of those the nearest to it.
-/
namespace ValueArena

/-- The whole number `digits` times ten to `exponent`. -/
structure Decimal where
  digits : Nat
  exponent : Int
  deriving DecidableEq, Repr

namespace Decimal

/-- A number between the ends of the interval that rounds to it, all over one denominator. -/
structure Rounding where
  low : Nat
  middle : Nat
  high : Nat
  denominator : Nat
  /-- Whether the two ends round to the number too. -/
  closed : Bool
  deriving DecidableEq, Repr

/-- A neighbour lies one unit of the mantissa away, but only half of one below a power of two. -/
def Rounding.ofBinary (leadingUnit mantissa : Nat) (exponent : Int) : Rounding :=
  let below := if mantissa = leadingUnit then 1 else 2
  let scale := Nat.pow 2 (exponent - 2).toNat
  { low := (4 * mantissa - below) * scale
    middle := 4 * mantissa * scale
    high := (4 * mantissa + 2) * scale
    denominator := Nat.pow 2 (2 - exponent).toNat
    closed := mantissa % 2 == 0 }

def digitCount (n : Nat) : Nat := (Nat.toDigits 10 n).length

/-- The place of the first digit: the greatest `e` with `10 ^ e` at most the number. -/
def Rounding.leadingPlace (r : Rounding) : Int :=
  if r.denominator ≤ r.middle then digitCount (r.middle / r.denominator) - 1
  else -(digitCount ((r.denominator + r.middle - 1) / r.middle - 1) : Int)

/-- A multiple of `10 ^ place` within the interval: of the two next to the number the nearer, and
the greater of two that are equally near. -/
def Rounding.atPlace? (r : Rounding) (place : Int) : Option Decimal :=
  let grow := Nat.pow 10 (-place).toNat
  let unit := Nat.pow 10 place.toNat * r.denominator
  let middle := r.middle * grow
  let floor := middle / unit
  let within (n : Nat) : Bool :=
    let low := r.low * grow
    let high := r.high * grow
    if r.closed then low ≤ n * unit && n * unit ≤ high else low < n * unit && n * unit < high
  let upper := 2 * (middle - floor * unit) ≥ unit
  match within floor, within (floor + 1) with
  | true, true => some ⟨if upper then floor + 1 else floor, place⟩
  | true, false => some ⟨floor, place⟩
  | false, true => some ⟨floor + 1, place⟩
  | false, false => none

/-- The first place from `place` down, over `count` places, with a decimal in the interval. -/
def Rounding.search (r : Rounding) : Nat → Int → Decimal
  | 0, place =>
    ⟨r.middle * Nat.pow 10 (-place).toNat / (Nat.pow 10 place.toNat * r.denominator), place⟩
  | count + 1, place =>
    match r.atPlace? place with
    | some d => d
    | none => r.search count (place - 1)

/-- Seventeen digits always suffice for the formats in use. -/
def Rounding.shortest (r : Rounding) : Decimal := r.search 17 r.leadingPlace

/-- Which numbers are written without an exponent, by the place of their first digit. -/
structure Style where
  lowestPlace : Int
  highestPlace : Int
  deriving DecidableEq, Repr

/-- Digits without trailing zeros, and the place of the first. -/
def layout (d : Decimal) : List Char × Int :=
  let ds := Nat.toDigits 10 d.digits
  ((ds.reverse.dropWhile (· == '0')).reverse, d.exponent + ds.length - 1)

def positional (ds : List Char) (place : Int) : List Char :=
  if place < 0 then ['0', '.'] ++ List.replicate (-place - 1).toNat '0' ++ ds
  else
    let whole := place.toNat + 1
    let fraction := ds.drop whole
    ds.take whole ++ List.replicate (whole - ds.length) '0' ++ ['.'] ++
      if fraction.isEmpty then ['0'] else fraction

def scientific (ds : List Char) (place : Int) : List Char :=
  let fraction := ds.drop 1
  ds.take 1 ++ (if fraction.isEmpty then [] else '.' :: fraction) ++ 'e' :: (toString place).toList

def write (style : Style) (d : Decimal) : List Char :=
  let (ds, place) := d.layout
  if style.lowestPlace ≤ place ∧ place ≤ style.highestPlace then positional ds place
  else scientific ds place

end Decimal

def Datum.text (style : Decimal.Style) (format : BinaryFormat) : Datum → String
  | .nan => "NaN"
  | .infinite negative => if negative then "-inf" else "inf"
  | .finite negative mantissa exponent =>
    let sign := if negative then ['-'] else []
    let magnitude :=
      if mantissa = 0 then ['0', '.', '0']
      else (Decimal.Rounding.ofBinary format.leadingUnit mantissa exponent).shortest.write style
    String.ofList (sign ++ magnitude)

end ValueArena
