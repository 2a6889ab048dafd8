import ValueArena.Bytes.FixedWidth
import ValueArena.Number.BinaryFormat

/-!
64-bit floating-point numbers as bit patterns. A pattern moves unchanged through memory, so a NaN
keeps its payload; only arithmetic makes new patterns.
-/
namespace ValueArena

structure Binary64 where
  bits : UInt64
  deriving DecidableEq, Repr

namespace Binary64

instance : FixedWidth Binary64 := .ofInverse bits mk (fun _ => rfl) (fun _ => rfl)

def unpack (v : Binary64) : Datum := BinaryFormat.double.unpack v.bits.toNat

/-- The patterns above those of the infinities, the sign apart. -/
def isNaN (v : Binary64) : Bool := 0x7FF0000000000000 < v.bits % 0x8000000000000000

/-- The NaN of an operation without an operand to take it from, such as 0 / 0. -/
def invalid : Binary64 := ⟨0xFFF8000000000000⟩

/-- A NaN with its quiet bit set; sign and payload stay. -/
def quiet (v : Binary64) : Binary64 := ⟨v.bits ||| 0x0008000000000000⟩

/-- A NaN operand passes through, the left one first. -/
def combine (op : Float → Float → Float) (a b : Binary64) : Binary64 :=
  if a.isNaN then a.quiet
  else if b.isNaN then b.quiet
  else
    let result := op (Float.ofBits a.bits) (Float.ofBits b.bits)
    if result.isNaN then invalid else ⟨result.toBits⟩

def add : Binary64 → Binary64 → Binary64 := combine (· + ·)
def sub : Binary64 → Binary64 → Binary64 := combine (· - ·)
def mul : Binary64 → Binary64 → Binary64 := combine (· * ·)
def div : Binary64 → Binary64 → Binary64 := combine (· / ·)

/-- Numeric equality: the two zeros are equal and a NaN equals nothing. -/
def equals (a b : Binary64) : Bool := Float.ofBits a.bits == Float.ofBits b.bits

def exceeds (a b : Binary64) : Bool := Float.ofBits b.bits < Float.ofBits a.bits

/-- The quotient rounded to the nearest whole number, a half to the even one. -/
def roundHalfEven (n divisor : Nat) : Nat :=
  let quotient := n / divisor
  let twice := 2 * (n % divisor)
  if twice < divisor then quotient
  else if divisor < twice then quotient + 1
  else quotient + quotient % 2

def signBit (negative : Bool) : Nat := if negative then 0x8000000000000000 else 0

/-- The number nearest to `mantissa` times two to `exponent`, for results in the normal range. A
mantissa that rounds up to the next power of two carries into the exponent field. -/
def ofScaled (negative : Bool) (mantissa : Nat) (exponent : Int) : Binary64 :=
  let sign := signBit negative
  if mantissa = 0 then ⟨UInt64.ofNat sign⟩
  else
    let top := mantissa.log2
    let significand :=
      if top ≤ 52 then mantissa * Nat.pow 2 (52 - top)
      else roundHalfEven mantissa (Nat.pow 2 (top - 52))
    let field := (exponent + top + 1023).toNat
    let leading := BinaryFormat.double.leadingUnit
    ⟨UInt64.ofNat (sign + field * leading + (significand - leading))⟩

def ofInt (v : Int) : Binary64 := ofScaled (v < 0) v.natAbs 0

def zero : Binary64 := ofInt 0

def toInt32 (v : Binary64) : Int32 :=
  Int32.ofInt (v.unpack.truncate Int32.minValue.toInt Int32.maxValue.toInt)

def toInt64 (v : Binary64) : Int64 :=
  Int64.ofInt (v.unpack.truncate Int64.minValue.toInt Int64.maxValue.toInt)

end Binary64
end ValueArena
