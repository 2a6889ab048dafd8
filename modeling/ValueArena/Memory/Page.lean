import ValueArena.Bytes.Sparse

/-!
One page: bytes given out in order from the start, readable and writable once given out. Bytes that
were never written are zero.
-/
namespace ValueArena

structure Page where
  capacity : Nat
  /-- Bytes given out so far; the next ones start here. -/
  used : Nat
  bytes : SparseBytes
  deriving Repr

namespace Page

/-- A page of this capacity, if the system provides it. None is larger than a signed 64-bit size. -/
def ofCapacity? (capacity : Nat) (provided : Bool := true) : Option Page :=
  if provided && capacity < 0x8000000000000000 then some ⟨capacity, 0, .blank⟩ else none

def remaining (p : Page) : Nat := p.capacity - p.used

/-- Gives out `len` bytes. Their offset has to fit 32 bits. -/
def alloc? (p : Page) (len : Nat) : Option (UInt32 × Page) :=
  if p.used + len ≤ p.capacity ∧ p.used ≤ 0xFFFFFFFF then
    some (UInt32.ofNat p.used, { p with used := p.used + len })
  else none

/-- Whether `len` bytes from an offset have been given out. -/
def holds (p : Page) (offset : UInt32) (len : Nat) : Bool := offset.toNat + len ≤ p.used

def read? (p : Page) (offset : UInt32) (len : Nat) : Option (List UInt8) :=
  if p.holds offset len then some (p.bytes.read offset.toNat len) else none

def write? (p : Page) (offset : UInt32) (bs : List UInt8) : Option Page :=
  if p.holds offset bs.length then some { p with bytes := p.bytes.write offset.toNat bs } else none

/-- The bytes given out so far. -/
def contents (p : Page) : List UInt8 := p.bytes.read 0 p.used

@[simp] theorem length_contents (p : Page) : p.contents.length = p.used := by simp [contents]

theorem write?_isSome (p : Page) (offset : UInt32) (bs : List UInt8) :
    (p.write? offset bs).isSome = (p.read? offset bs.length).isSome := by
  unfold write? read?
  split <;> rfl

theorem read?_of_write? {p q : Page} {offset : UInt32} {bs : List UInt8}
    (h : p.write? offset bs = some q) : q.read? offset bs.length = some bs := by
  unfold write? at h
  split at h
  case isTrue inside =>
    cases h
    have kept : Page.holds { p with bytes := p.bytes.write offset.toNat bs } offset bs.length :=
      inside
    simp [read?, kept, SparseBytes.read_write]
  case isFalse => cases h

end Page
end ValueArena
