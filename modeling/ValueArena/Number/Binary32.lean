import ValueArena.Number.Binary64

/-!
32-bit floating-point numbers as bit patterns, and the 64-bit number equal to each.
-/
namespace ValueArena

structure Binary32 where
  bits : UInt32
  deriving DecidableEq, Repr

namespace Binary32

instance : FixedWidth Binary32 := .ofInverse bits mk (fun _ => rfl) (fun _ => rfl)

def unpack (v : Binary32) : Datum := BinaryFormat.single.unpack v.bits.toNat

/-- The same number. A NaN keeps its sign and the high bits of its payload and becomes quiet. -/
def widen (v : Binary32) : Binary64 :=
  let negative := BinaryFormat.single.isNegative v.bits.toNat
  let infinity := Binary64.signBit negative + 0x7FF0000000000000
  match v.unpack with
  | .nan =>
    let payload := BinaryFormat.single.fraction v.bits.toNat * 0x20000000
    Binary64.quiet ⟨UInt64.ofNat (infinity + payload)⟩
  | .infinite _ => ⟨UInt64.ofNat infinity⟩
  | .finite _ mantissa exponent => Binary64.ofScaled negative mantissa exponent

end Binary32
end ValueArena
