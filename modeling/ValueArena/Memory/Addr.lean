import ValueArena.Bytes.FixedWidth
import ValueArena.Text.Hex

/-!
Addresses: a page and an offset within it, packed into one word. The high half holds the page index
plus one, so that the zero word is left over as the null address.
-/
namespace ValueArena

structure Addr where
  raw : UInt64
  deriving DecidableEq, Repr

namespace Addr

instance : FixedWidth Addr := .ofInverse raw mk (fun _ => rfl) (fun _ => rfl)

def null : Addr := ⟨0⟩

/-- The last page index has no encoding. -/
def make? (page offset : UInt32) : Option Addr :=
  if page < 0xFFFFFFFF then some ⟨(page.toUInt64 + 1) * 0x100000000 + offset.toUInt64⟩ else none

def isNull (a : Addr) : Bool := a.raw == 0

/-- None for every word whose high half is zero, not for null alone. -/
def page? (a : Addr) : Option UInt32 :=
  if a.raw < 0x100000000 then none else some (a.raw / 0x100000000 - 1).toUInt32

def offset (a : Addr) : UInt32 := a.raw.toUInt32

/-- The address `delta` bytes further in the same page. -/
def add? (a : Addr) (delta : UInt32) : Option Addr :=
  match a.page? with
  | none => none
  | some page =>
    if a.offset.toNat + delta.toNat ≤ 0xFFFFFFFF then make? page (a.offset + delta) else none

def text (a : Addr) : String := Hex.text 16 a.raw.toNat

instance : Ord Addr := ⟨fun a b => compare a.raw b.raw⟩

theorem raw_of_make? {page offset : UInt32} {a : Addr} (h : make? page offset = some a) :
    a.raw.toNat = (page.toNat + 1) * 0x100000000 + offset.toNat := by
  have := offset.toNat_lt
  unfold make? at h
  split at h
  case isTrue bound =>
    cases h
    have small : page.toNat < 0xFFFFFFFF := UInt32.lt_iff_toNat_lt.mp bound
    rw [UInt64.toNat_add, UInt64.toNat_mul, UInt64.toNat_add, UInt32.toNat_toUInt64,
      UInt32.toNat_toUInt64]
    simp only [UInt64.reduceToNat]
    omega
  case isFalse => cases h

theorem page?_eq_some_iff {a : Addr} {page : UInt32} :
    a.page? = some page ↔ a.raw.toNat / 0x100000000 = page.toNat + 1 := by
  have := a.raw.toNat_lt
  have := page.toNat_lt
  unfold page?
  split
  case isTrue small =>
    have bound : a.raw.toNat < 0x100000000 := UInt64.lt_iff_toNat_lt.mp small
    simp only [reduceCtorEq, false_iff]
    omega
  case isFalse large =>
    have bound : ¬ a.raw.toNat < 0x100000000 := fun h => large (UInt64.lt_iff_toNat_lt.mpr h)
    rw [Option.some.injEq, ← UInt32.toNat_inj, UInt64.toNat_toUInt32, UInt64.toNat_sub,
      UInt64.toNat_div]
    simp only [UInt64.reduceToNat]
    omega

theorem toNat_offset (a : Addr) : a.offset.toNat = a.raw.toNat % 0x100000000 :=
  UInt64.toNat_toUInt32 a.raw

theorem page?_of_make? {page offset : UInt32} {a : Addr} (h : make? page offset = some a) :
    a.page? = some page := by
  have := raw_of_make? h
  have := offset.toNat_lt
  exact page?_eq_some_iff.mpr (by omega)

theorem offset_of_make? {page offset : UInt32} {a : Addr} (h : make? page offset = some a) :
    a.offset = offset := by
  have := raw_of_make? h
  have := offset.toNat_lt
  apply UInt32.toNat_inj.mp
  rw [toNat_offset]
  omega

/-- Every address with a page is made from that page and its offset. -/
theorem make?_of_page? {a : Addr} {page : UInt32} (h : a.page? = some page) :
    make? page a.offset = some a := by
  have index := page?_eq_some_iff.mp h
  have := a.raw.toNat_lt
  have bound : page < 0xFFFFFFFF := UInt32.lt_iff_toNat_lt.mpr (by simp; omega)
  obtain ⟨made, made_eq⟩ : ∃ made, make? page a.offset = some made := by simp [make?, bound]
  have raw := raw_of_make? made_eq
  rw [toNat_offset] at raw
  have same : made.raw = a.raw := UInt64.toNat_inj.mp (by omega)
  rw [made_eq]
  exact congrArg (fun raw => some (mk raw)) same

end Addr
end ValueArena
