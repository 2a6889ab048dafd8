/-!
Numbers as little-endian bytes. `ofBytes_toBytes` and `toBytes_ofBytes` make the two maps inverse on
the numbers below `256 ^ width` and the byte lists of that length.
-/
namespace ValueArena.LittleEndian

/-- The lowest `width` bytes of `n`, least significant first. -/
def toBytes : Nat → Nat → List UInt8
  | 0, _ => []
  | width + 1, n => UInt8.ofNat n :: toBytes width (n / 256)

def ofBytes : List UInt8 → Nat
  | [] => 0
  | b :: bs => b.toNat + 256 * ofBytes bs

@[simp] theorem length_toBytes (width n : Nat) : (toBytes width n).length = width := by
  induction width generalizing n with
  | zero => rfl
  | succ width ih => simp [toBytes, ih]

theorem ofBytes_lt (bs : List UInt8) : ofBytes bs < Nat.pow 256 bs.length := by
  induction bs with
  | nil => exact Nat.zero_lt_one
  | cons b bs ih =>
    have := b.toNat_lt
    change b.toNat + 256 * ofBytes bs < Nat.pow 256 bs.length * 256
    omega

theorem ofBytes_toBytes {width n : Nat} (h : n < Nat.pow 256 width) :
    ofBytes (toBytes width n) = n := by
  induction width generalizing n with
  | zero =>
    exact (Nat.lt_one_iff.mp h).symm
  | succ width ih =>
    have bound : n < Nat.pow 256 width * 256 := h
    simp only [toBytes, ofBytes, UInt8.toNat_ofNat']
    rw [ih (by omega)]
    omega

theorem toBytes_ofBytes (bs : List UInt8) : toBytes bs.length (ofBytes bs) = bs := by
  induction bs with
  | nil => rfl
  | cons b bs ih =>
    have hb := b.toNat_lt
    have hdiv : (b.toNat + 256 * ofBytes bs) / 256 = ofBytes bs := by omega
    simp only [ofBytes, List.length_cons, toBytes, hdiv, ih, List.cons.injEq, and_true]
    apply UInt8.toNat_inj.mp
    rw [UInt8.toNat_ofNat']
    omega

end ValueArena.LittleEndian
