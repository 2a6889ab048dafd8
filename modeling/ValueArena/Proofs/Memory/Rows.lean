import ValueArena.Memory.PageStore

/-!
The bytes given out, page by page. A read cuts a piece out of a page's row of bytes, a write
replaces one, and a reservation makes one row longer by the bytes it gives out and leaves the
others alone.
-/
namespace ValueArena

/-- A list with the elements from a position on replaced. -/
def splice (whole : List α) (start : Nat) (part : List α) : List α :=
  whole.take start ++ part ++ whole.drop (start + part.length)

theorem splice_length {whole part : List α} {start : Nat}
    (inside : start + part.length ≤ whole.length) :
    (splice whole start part).length = whole.length := by
  simp only [splice, List.length_append, List.length_take, List.length_drop]
  omega

theorem splice_middle {before old after part : List α} {start : Nat}
    (at_start : before.length = start) (same : part.length = old.length) :
    splice (before ++ old ++ after) start part = before ++ part ++ after := by
  subst start
  rw [splice, same, List.append_assoc before, List.take_left' rfl, ← List.append_assoc before,
    List.drop_left' (by simp)]

namespace SparseBytes

theorem read_within {m : SparseBytes} {start len total : Nat} (inside : start + len ≤ total) :
    m.read start len = ((m.read 0 total).drop start).take len := by
  apply List.ext_getElem
  · simp only [length_read, List.length_take, List.length_drop]
    omega
  · intro i _ _
    simp [read_eq_map]

theorem read_all_of_write {m : SparseBytes} {start total : Nat} {bs : List UInt8}
    (inside : start + bs.length ≤ total) :
    (m.write start bs).read 0 total = splice (m.read 0 total) start bs := by
  apply List.ext_getElem
  · rw [splice_length (by simpa using inside)]
    simp
  · intro i bound _
    simp only [length_read] at bound
    have at_start : min start total = start := Nat.min_eq_left (by omega)
    simp only [read_eq_map, List.getElem_map, List.getElem_range, Nat.zero_add, get_write, splice,
      List.getElem_append, List.getElem_take, List.getElem_drop, List.length_append,
      List.length_take, List.length_map, List.length_range, at_start]
    by_cases before : i < start
    · rw [if_neg (by omega), dif_pos (by omega), dif_pos before]
    · rw [if_pos (by omega)]
      by_cases within : i < start + bs.length
      · rw [dif_pos within, dif_neg before, List.getElem?_eq_getElem (by omega), Option.getD_some]
      · have same : start + bs.length + (i - (start + bs.length)) = i := by omega
        rw [dif_neg within, List.getElem?_eq_none (by omega), Option.getD_none, same]

end SparseBytes

namespace PageStore

/-- What decides which requests succeed. -/
structure Room where
  config : Config
  pages : Nat
  remaining : Nat
  reserved : Nat
  deriving DecidableEq, Repr

def room (s : PageStore) : Room := ⟨s.config, s.pages.size, s.remaining, s.reserved⟩

/-- The bytes given out from a page. -/
def row? (s : PageStore) (i : Nat) : Option (List UInt8) := s.pages[i]?.map Page.contents

/-- No page gives out more than it holds, its offsets fit 32 bits, and so do the page numbers and
the size of a standard page. -/
structure Bounded (s : PageStore) : Prop where
  used_le : ∀ (i : Nat) (page : Page), s.pages[i]? = some page →
    page.used ≤ page.capacity ∧ page.capacity ≤ 0xFFFFFFFF
  pages_le : s.pages.size ≤ 0xFFFFFFFE
  pageSize_le : 0 < s.pages.size → s.config.pageSize ≤ 0xFFFFFFFF

theorem empty_bounded (config : Config) : (empty config).Bounded :=
  ⟨by simp [empty], by simp [empty], by simp [empty]⟩

theorem active?_eq (s : PageStore) : s.active? = s.pages[s.pages.size - 1]? := by
  rw [active?, Array.back?_eq_getElem?]

theorem remaining_of_active {s : PageStore} {page : Page} (active : s.active? = some page) :
    s.remaining = page.remaining := by simp only [PageStore.remaining, active]

theorem active?_put {s : PageStore} {q : Page} (bound : s.pages.size - 1 < s.pages.size) :
    (s.put (s.pages.size - 1) q).active? = some q := by
  have size : (s.put (s.pages.size - 1) q).pages.size = s.pages.size := by simp [put]
  rw [active?_eq, size, getElem?_put, if_pos rfl, if_pos bound]

theorem row?_isSome_iff {s : PageStore} {i : Nat} : (s.row? i).isSome ↔ i < s.pages.size := by
  simp [row?]

theorem row?_length_le {s : PageStore} (bounded : s.Bounded) {i : Nat} {row : List UInt8}
    (found : s.row? i = some row) : row.length ≤ 0xFFFFFFFF := by
  obtain ⟨page, at_i, rfl⟩ := Option.map_eq_some_iff.mp found
  have := bounded.used_le i page at_i
  rw [Page.length_contents]
  omega

theorem locate_eq_ok_iff_row {s : PageStore} {addr : Addr} {len : Nat} :
    (∃ found, s.locate addr len = .ok found) ↔
      ∃ i row, addr.page?.map UInt32.toNat = some i ∧ s.row? i = some row ∧
        addr.offset.toNat + len ≤ row.length := by
  constructor
  · intro given
    obtain ⟨⟨i, page⟩, located⟩ := given
    obtain ⟨index, found, inside⟩ := locate_eq_ok_iff.mp located
    exact ⟨i, page.contents, index, by simp [row?, found], by simpa using inside⟩
  · intro given
    obtain ⟨i, row, index, found, inside⟩ := given
    obtain ⟨page, at_i, rfl⟩ := Option.map_eq_some_iff.mp found
    exact ⟨(i, page), locate_eq_ok_iff.mpr ⟨index, at_i, by simpa using inside⟩⟩

theorem room_put {s : PageStore} {i : Nat} {p q : Page} (found : s.pages[i]? = some p)
    (same : q.remaining = p.remaining) : (s.put i q).room = s.room := by
  have bound : i < s.pages.size := (Array.getElem?_eq_some_iff.mp found).1
  have size : (s.put i q).pages.size = s.pages.size := by simp [put]
  have remaining : (s.put i q).remaining = s.remaining := by
    by_cases last : i = s.pages.size - 1
    · subst last
      rw [remaining_of_active (active?_put bound), same,
        remaining_of_active ((active?_eq s).trans found)]
    · simp only [PageStore.remaining, active?_eq, size, getElem?_put, last, ↓reduceIte]
  simp only [room, size, remaining]
  rfl

theorem read_of_row {s : PageStore} {addr : Addr} {len i : Nat} {row : List UInt8}
    (index : addr.page?.map UInt32.toNat = some i) (found : s.row? i = some row)
    (inside : addr.offset.toNat + len ≤ row.length) :
    s.read addr len = .ok ((row.drop addr.offset.toNat).take len) := by
  obtain ⟨page, at_i, rfl⟩ := Option.map_eq_some_iff.mp found
  rw [Page.length_contents] at inside
  exact read_eq_ok_iff.mpr
    ⟨i, page, locate_eq_ok_iff.mpr ⟨index, at_i, inside⟩, SparseBytes.read_within inside⟩

theorem read_eq_ok_iff_row {s : PageStore} {addr : Addr} {len : Nat} {bs : List UInt8} :
    s.read addr len = .ok bs ↔ ∃ i row, addr.page?.map UInt32.toNat = some i ∧
      s.row? i = some row ∧ addr.offset.toNat + len ≤ row.length ∧
      (row.drop addr.offset.toNat).take len = bs := by
  constructor
  · intro got
    obtain ⟨i, page, located, _⟩ := read_eq_ok_iff.mp got
    obtain ⟨j, row, index, found, inside⟩ := locate_eq_ok_iff_row.mp ⟨_, located⟩
    rw [read_of_row index found inside] at got
    exact ⟨j, row, index, found, inside, Except.ok.inj got⟩
  · intro given
    obtain ⟨i, row, index, found, inside, rfl⟩ := given
    exact read_of_row index found inside

theorem write_of_row {s : PageStore} (bounded : s.Bounded) {addr : Addr} {bs : List UInt8} {i : Nat}
    {row : List UInt8} (index : addr.page?.map UInt32.toNat = some i)
    (found : s.row? i = some row) (inside : addr.offset.toNat + bs.length ≤ row.length) :
    ∃ t, s.write addr bs = .ok t ∧ t.Bounded ∧ t.room = s.room ∧
      ∀ j, t.row? j = if j = i then some (splice row addr.offset.toNat bs) else s.row? j := by
  obtain ⟨page, at_i, rfl⟩ := Option.map_eq_some_iff.mp found
  rw [Page.length_contents] at inside
  have bound : i < s.pages.size := (Array.getElem?_eq_some_iff.mp at_i).1
  refine ⟨_, write_eq_ok_iff.mpr ⟨i, page, locate_eq_ok_iff.mpr ⟨index, at_i, inside⟩, rfl⟩,
    ⟨?_, ?_, ?_⟩, room_put at_i rfl, ?_⟩
  · intro j other at_j
    rw [getElem?_put] at at_j
    split at at_j
    · obtain rfl : _ = other := by simpa [bound] using at_j
      exact bounded.used_le i page at_i
    · exact bounded.used_le j other at_j
  · simpa [put] using bounded.pages_le
  · simpa [put] using bounded.pageSize_le
  · intro j
    simp only [row?, getElem?_put, bound, ↓reduceIte, eq_comm (a := i)]
    split
    · exact congrArg some (SparseBytes.read_all_of_write inside)
    · rfl

end PageStore
end ValueArena
