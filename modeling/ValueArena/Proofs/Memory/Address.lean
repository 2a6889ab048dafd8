import ValueArena.Memory.Addr

/-!
Addresses as pairs of a page number and an offset. The halves of a word are the pair that it was made
from, an addition moves the offset alone and is refused where it would leave the page, and addresses
are ordered like their pairs.
-/
namespace ValueArena

theorem compare_congr {m n m' n' : Nat} (below : m < n ↔ m' < n') (above : n < m ↔ n' < m') :
    compare m n = compare m' n' := by
  rcases order : compare m' n' with _ | _ | _
  · exact Nat.compare_eq_lt.mpr (below.mpr (Nat.compare_eq_lt.mp order))
  · have same := Nat.compare_eq_eq.mp order
    exact Nat.compare_eq_eq.mpr (by omega)
  · exact Nat.compare_eq_gt.mpr (above.mpr (Nat.compare_eq_gt.mp order))

/-- Numbers of two digits are ordered by the first, then by the second. -/
theorem compare_twoDigits {base high high' low low' : Nat} (small : low < base)
    (small' : low' < base) :
    compare (high * base + low) (high' * base + low') =
      (compare high high').then (compare low low') := by
  rcases order : compare high high' with _ | _ | _
  · have below : (high + 1) * base ≤ high' * base :=
      Nat.mul_le_mul_right base (Nat.compare_eq_lt.mp order)
    rw [Nat.succ_mul] at below
    exact Nat.compare_eq_lt.mpr (by omega)
  · obtain rfl := Nat.compare_eq_eq.mp order
    rw [Ordering.eq_then]
    exact compare_congr (by omega) (by omega)
  · have above : (high' + 1) * base ≤ high * base :=
      Nat.mul_le_mul_right base (Nat.compare_eq_gt.mp order)
    rw [Nat.succ_mul] at above
    exact Nat.compare_eq_gt.mpr (by omega)

theorem compare_word (v w : UInt32) : compare v w = compare v.toNat w.toNat := by
  change compareOfLessAndEq v w = compareOfLessAndEq v.toNat w.toNat
  simp only [compareOfLessAndEq, UInt32.lt_iff_toNat_lt, UInt32.toNat_inj]

namespace Addr

/-- The high half of the word: one more than the page number, or zero where there is no page. -/
def pageWord (a : Addr) : UInt64 := a.raw >>> 32

/-- Pairs of a page number and an offset and words with a page stand for each other, in order. -/
structure Packs (a b : Addr) : Prop where
  made : ∀ page offset, (∃ c, make? page offset = some c) ↔ page < 0xFFFFFFFF
  bits : ∀ page offset, make? page offset = some a →
    a.raw = (page.toUInt64 + 1) <<< 32 ||| offset.toUInt64
  paged : a.page? = none ↔ a.pageWord = 0
  pair : ∀ page offset, make? page offset = some a ↔ a.page? = some page ∧ a.offset = offset
  order : compare a b = (compare a.page? b.page?).then (compare a.offset b.offset)

/-- What one addition to an address gives, and two of them. -/
structure Adds (a : Addr) (d e : UInt32) : Prop where
  /-- No page of an address is the one that has no encoding. -/
  encoded : ∀ page offset, a.page? = some page → ∃ b, make? page offset = some b
  none_iff : a.add? d = none ↔ a.pageWord = 0 ∨ 0xFFFFFFFF < a.offset.toNat + d.toNat
  sum : ∀ b, a.add? d = some b → b.raw.toNat = a.raw.toNat + d.toNat ∧ b.page? = a.page?
  twice : d.toNat + e.toNat ≤ 0xFFFFFFFF → (a.add? d).bind (·.add? e) = a.add? (d + e)

theorem isNull_iff {a : Addr} : a.isNull = true ↔ a = null := by
  obtain ⟨raw⟩ := a
  simp [isNull, null]

theorem isNull_eq_false {a : Addr} (other : a ≠ null) : a.isNull = false := by
  rw [Bool.eq_false_iff]
  exact mt isNull_iff.mp other

theorem eq_of_page_offset {a b : Addr} {page : UInt32} (on_a : a.page? = some page)
    (on_b : b.page? = some page) (offset : a.offset = b.offset) : a = b := by
  have made := make?_of_page? on_a
  rw [offset, make?_of_page? on_b] at made
  exact (Option.some.inj made).symm

theorem page_lt {a : Addr} {page : UInt32} (on : a.page? = some page) : page < 0xFFFFFFFF := by
  have index := page?_eq_some_iff.mp on
  have := a.raw.toNat_lt
  exact UInt32.lt_iff_toNat_lt.mpr (by simp only [UInt32.reduceToNat]; omega)

theorem exists_make?_iff {page offset : UInt32} :
    (∃ a, make? page offset = some a) ↔ page < 0xFFFFFFFF := by
  unfold make?
  split
  case isTrue bound => simp [bound]
  case isFalse bound => simp [bound]

theorem make?_eq_some_iff {a : Addr} {page offset : UInt32} :
    make? page offset = some a ↔ a.page? = some page ∧ a.offset = offset := by
  constructor
  · exact fun made => ⟨page?_of_make? made, offset_of_make? made⟩
  · rintro ⟨on, rfl⟩
    exact make?_of_page? on

theorem add?_within {a : Addr} {page d : UInt32} (on : a.page? = some page)
    (inside : a.offset.toNat + d.toNat ≤ 0xFFFFFFFF) :
    ∃ b, a.add? d = some b ∧ b.page? = some page ∧
      b.offset.toNat = a.offset.toNat + d.toNat := by
  obtain ⟨b, made⟩ : ∃ b, make? page (a.offset + d) = some b := exists_make?_iff.mpr (page_lt on)
  refine ⟨b, by simp only [add?, on, inside, ↓reduceIte, made], page?_of_make? made, ?_⟩
  rw [offset_of_make? made, UInt32.toNat_add, Nat.mod_eq_of_lt (by omega)]

/-- A sum lies on the same page, at the sum of the offsets. -/
theorem add?_eq_some_iff {a b : Addr} {d : UInt32} : a.add? d = some b ↔
    ∃ page, a.page? = some page ∧ b.page? = some page ∧
      b.offset.toNat = a.offset.toNat + d.toNat := by
  constructor
  · intro added
    cases on : a.page? with
    | none => simp [add?, on] at added
    | some page =>
      by_cases inside : a.offset.toNat + d.toNat ≤ 0xFFFFFFFF
      · obtain ⟨c, same, on_c, offset⟩ := add?_within on inside
        obtain rfl := Option.some.inj (same.symm.trans added)
        exact ⟨page, rfl, on_c, offset⟩
      · simp [add?, on, inside] at added
  · rintro ⟨page, on, on_b, offset⟩
    have := b.offset.toNat_lt
    obtain ⟨c, added, on_c, same⟩ := add?_within on (d := d) (by omega)
    have equal : c.offset = b.offset := UInt32.toNat_inj.mp (same.trans offset.symm)
    rw [added, eq_of_page_offset on_c on_b equal]

theorem toNat_pageWord (a : Addr) : a.pageWord.toNat = a.raw.toNat / 0x100000000 := by
  rw [pageWord, UInt64.toNat_shiftRight, Nat.shiftRight_eq_div_pow]
  rfl

theorem toNat_pageWord_eq (a : Addr) :
    a.pageWord.toNat = (a.page?.map (·.toNat + 1)).getD 0 := by
  rw [toNat_pageWord]
  cases on : a.page? with
  | none =>
    have small : a.raw < 0x100000000 := by
      unfold page? at on
      split at on
      case isTrue small => exact small
      case isFalse => cases on
    have bound : a.raw.toNat < 0x100000000 := UInt64.lt_iff_toNat_lt.mp small
    exact Nat.div_eq_of_lt bound
  | some page => exact page?_eq_some_iff.mp on

theorem page?_eq_none_iff {a : Addr} : a.page? = none ↔ a.pageWord = 0 := by
  rw [← UInt64.toNat_inj, toNat_pageWord_eq]
  cases a.page? <;> simp

/-- The word of a page and an offset, as the two halves of it. -/
theorem raw_eq_bits {a : Addr} {page offset : UInt32} (made : make? page offset = some a) :
    a.raw = (page.toUInt64 + 1) <<< 32 ||| offset.toUInt64 := by
  have small := UInt32.lt_iff_toNat_lt.mp (exists_make?_iff.mp ⟨a, made⟩)
  simp only [UInt32.reduceToNat] at small
  have next : (page.toUInt64 + 1).toNat = page.toNat + 1 := by
    rw [UInt64.toNat_add, UInt32.toNat_toUInt64]
    simp only [UInt64.reduceToNat]
    omega
  have high : ((page.toUInt64 + 1) <<< 32).toNat = (page.toNat + 1) <<< 32 := by
    rw [UInt64.toNat_shiftLeft, next]
    simp only [UInt64.reduceToNat, Nat.reduceMod, Nat.shiftLeft_eq]
    omega
  apply UInt64.toNat_inj.mp
  rw [raw_of_make? made, UInt64.toNat_or, high, UInt32.toNat_toUInt64,
    ← Nat.shiftLeft_add_eq_or_of_lt offset.toNat_lt, Nat.shiftLeft_eq]

theorem compare_eq (a b : Addr) : compare a b = compare a.raw.toNat b.raw.toNat := by
  change compareOfLessAndEq a.raw b.raw = compareOfLessAndEq a.raw.toNat b.raw.toNat
  simp only [compareOfLessAndEq, UInt64.lt_iff_toNat_lt, UInt64.toNat_inj]

/-- The words in the high halves are ordered like the pages, where no page comes first. -/
theorem compare_page? (a b : Addr) :
    compare a.pageWord.toNat b.pageWord.toNat = compare a.page? b.page? := by
  rw [toNat_pageWord_eq, toNat_pageWord_eq]
  rcases a.page? with _ | page <;> rcases b.page? with _ | page'
  · rfl
  · exact Nat.compare_eq_lt.mpr (Nat.succ_pos _)
  · exact Nat.compare_eq_gt.mpr (Nat.succ_pos _)
  · change compare (page.toNat + 1) (page'.toNat + 1) = compare page page'
    rw [compare_word]
    exact compare_congr (by omega) (by omega)

theorem compare_eq_then (a b : Addr) :
    compare a b = (compare a.page? b.page?).then (compare a.offset b.offset) := by
  have split : ∀ c : Addr,
      c.raw.toNat = c.pageWord.toNat * 0x100000000 + c.offset.toNat := fun c => by
    rw [toNat_pageWord, toNat_offset]
    omega
  have := a.offset.toNat_lt
  have := b.offset.toNat_lt
  rw [compare_eq, split a, split b, compare_twoDigits (by omega) (by omega), compare_page?,
    compare_word]

theorem packs (a b : Addr) : a.Packs b where
  made _ _ := exists_make?_iff
  bits _ _ made := raw_eq_bits made
  paged := page?_eq_none_iff
  pair _ _ := make?_eq_some_iff
  order := compare_eq_then a b

theorem add?_eq_none_iff {a : Addr} {d : UInt32} :
    a.add? d = none ↔ a.pageWord = 0 ∨ 0xFFFFFFFF < a.offset.toNat + d.toNat := by
  rw [← page?_eq_none_iff]
  constructor
  · intro refused
    cases on : a.page? with
    | none => exact .inl rfl
    | some page =>
      refine .inr (Nat.lt_of_not_le fun inside => ?_)
      obtain ⟨b, added, _⟩ := add?_within on inside
      exact nomatch refused.symm.trans added
  · intro outside
    cases added : a.add? d with
    | none => rfl
    | some b =>
      obtain ⟨page, on, _, offset⟩ := add?_eq_some_iff.mp added
      have := b.offset.toNat_lt
      rw [on] at outside
      rcases outside with missing | past
      · cases missing
      · omega

theorem add?_sum {a b : Addr} {d : UInt32} (added : a.add? d = some b) :
    b.raw.toNat = a.raw.toNat + d.toNat ∧ b.page? = a.page? := by
  obtain ⟨page, on, on_b, offset⟩ := add?_eq_some_iff.mp added
  have high := page?_eq_some_iff.mp on
  have high_b := page?_eq_some_iff.mp on_b
  rw [toNat_offset, toNat_offset] at offset
  exact ⟨by omega, on_b.trans on.symm⟩

/-- Two additions are one of the sum, also where they leave the page. -/
theorem add?_add? (a : Addr) {d e : UInt32} (sum : d.toNat + e.toNat ≤ 0xFFFFFFFF) :
    (a.add? d).bind (·.add? e) = a.add? (d + e) := by
  have total : (d + e).toNat = d.toNat + e.toNat := by
    rw [UInt32.toNat_add, Nat.mod_eq_of_lt (by omega)]
  ext c
  rw [Option.bind_eq_some_iff, add?_eq_some_iff, total]
  constructor
  · rintro ⟨b, first, second⟩
    obtain ⟨page, on, on_b, offset⟩ := add?_eq_some_iff.mp first
    obtain ⟨page', on', on_c, offset'⟩ := add?_eq_some_iff.mp second
    obtain rfl := Option.some.inj (on_b.symm.trans on')
    exact ⟨page, on, on_c, by omega⟩
  · rintro ⟨page, on, on_c, offset⟩
    have := c.offset.toNat_lt
    obtain ⟨b, first, on_b, middle⟩ := add?_within on (d := d) (by omega)
    exact ⟨b, first, add?_eq_some_iff.mpr ⟨page, on_b, on_c, by omega⟩⟩

theorem adds (a : Addr) (d e : UInt32) : a.Adds d e where
  encoded _ _ on := exists_make?_iff.mpr (page_lt on)
  none_iff := add?_eq_none_iff
  sum _ added := add?_sum added
  twice sum := add?_add? a sum

/-- Every word is packed, and none is added to beyond its page. -/
theorem packs_adds (a b : Addr) (d e : UInt32) : a.Packs b ∧ a.Adds d e := ⟨packs a b, adds a d e⟩

/-- The last offset of the last page, and a word that is not null and yet has no page. -/
example : (Addr.mk 0xFFFFFFFFFFFFFFFE).add? 1 = some ⟨0xFFFFFFFFFFFFFFFF⟩ ∧
    (Addr.mk 0xFFFFFFFFFFFFFFFF).add? 1 = none ∧ (Addr.mk 5).page? = none ∧
    (Addr.mk 5).add? 0 = none := by decide

end Addr
end ValueArena
