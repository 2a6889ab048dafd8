/-!
Binary floating-point formats: what the fields of a bit pattern stand for.
-/
namespace ValueArena

structure BinaryFormat where
  fractionBits : Nat
  exponentBits : Nat
  deriving DecidableEq, Repr

/-- A finite number is its mantissa times two to its exponent. -/
inductive Datum where
  | nan
  | infinite (negative : Bool)
  | finite (negative : Bool) (mantissa : Nat) (exponent : Int)
  deriving DecidableEq, Repr

namespace BinaryFormat

def single : BinaryFormat := ⟨23, 8⟩
def double : BinaryFormat := ⟨52, 11⟩

def bias (f : BinaryFormat) : Nat := Nat.pow 2 (f.exponentBits - 1) - 1
def fraction (f : BinaryFormat) (bits : Nat) : Nat := bits % Nat.pow 2 f.fractionBits
def exponentField (f : BinaryFormat) (bits : Nat) : Nat :=
  bits / Nat.pow 2 f.fractionBits % Nat.pow 2 f.exponentBits
def isNegative (f : BinaryFormat) (bits : Nat) : Bool :=
  bits / Nat.pow 2 (f.fractionBits + f.exponentBits) % 2 == 1

/-- The mantissa of a normal number of least magnitude in its binade. -/
def leadingUnit (f : BinaryFormat) : Nat := Nat.pow 2 f.fractionBits

def unpack (f : BinaryFormat) (bits : Nat) : Datum :=
  let negative := f.isNegative bits
  let fraction := f.fraction bits
  let field := f.exponentField bits
  if field + 1 = Nat.pow 2 f.exponentBits then
    if fraction = 0 then .infinite negative else .nan
  else if field = 0 then .finite negative fraction (1 - f.bias - f.fractionBits)
  else .finite negative (f.leadingUnit + fraction) (field - f.bias - f.fractionBits)

end BinaryFormat

/-- Rounds toward zero and stays between `lowest` and `highest`; a NaN counts as zero. -/
def Datum.truncate (lowest highest : Int) : Datum → Int
  | .nan => 0
  | .infinite negative => if negative then lowest else highest
  | .finite negative mantissa exponent =>
    let magnitude :=
      if 0 ≤ exponent then mantissa * Nat.pow 2 exponent.toNat
      else mantissa / Nat.pow 2 (-exponent).toNat
    let whole : Int := if negative then -magnitude else magnitude
    max lowest (min highest whole)

end ValueArena
