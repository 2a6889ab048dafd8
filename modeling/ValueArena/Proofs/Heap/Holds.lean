import ValueArena.Proofs.Heap.Cell
import ValueArena.Proofs.Memory.Address
import ValueArena.Proofs.Memory.Reserve

/-!
A heap says which cell starts at which address. A store holds a heap when the bytes given out on
each of its pages are those of the heap's cells there, one after the other and nothing between
them. A field of a cell that lies in a store is always there to be read, and in a store that holds
a heap writing one changes that cell alone.
-/
namespace ValueArena

abbrev Heap := Addr → Option Cell

namespace Heap

def empty : Heap := fun _ => none

def put (heap : Heap) (addr : Addr) (c : Cell) : Heap :=
  fun x => if x = addr then some c else heap x

/-- The heap of the cells that lie on each page. -/
def ofRows (rows : Nat → Option (List Cell)) : Heap := fun addr =>
  addr.page?.bind fun page => (rows page.toNat).bind fun cells =>
    Cell.find? cells addr.offset.toNat

@[simp] theorem put_self (heap : Heap) (addr : Addr) (c : Cell) :
    heap.put addr c addr = some c := by simp [put]

theorem put_other {heap : Heap} {addr x : Addr} {c : Cell} (other : x ≠ addr) :
    heap.put addr c x = heap x := by simp [put, other]

/-- A cell found after a write is the written one or was there before. -/
theorem put_eq_some {heap : Heap} {addr x : Addr} {c d : Cell}
    (found : heap.put addr d x = some c) :
    x = addr ∧ c = d ∨ x ≠ addr ∧ heap x = some c := by
  unfold put at found
  split at found
  case isTrue same => exact .inl ⟨same, (Option.some.inj found).symm⟩
  case isFalse other => exact .inr ⟨other, found⟩

theorem ne_of_fresh {heap : Heap} {x y : Addr} {c : Cell} (found : heap x = some c)
    (fresh : heap y = none) : x ≠ y := by
  intro same
  rw [same, fresh] at found
  cases found

theorem ne_of_cells {heap : Heap} {x y : Addr} {c d : Cell} (at_x : heap x = some c)
    (at_y : heap y = some d) (differ : c ≠ d) : x ≠ y := by
  intro same
  rw [same, at_y] at at_x
  exact differ (Option.some.inj at_x).symm

theorem put_fresh {heap : Heap} {addr x : Addr} {c : Cell} (fresh : heap addr = none)
    (found : heap x = some c) (d : Cell) : heap.put addr d x = some c := by
  rw [put_other (ne_of_fresh found fresh), found]

theorem ofRows_null (rows : Nat → Option (List Cell)) : ofRows rows .null = none := rfl

theorem ofRows_eq_some {rows : Nat → Option (List Cell)} {addr : Addr} {c : Cell}
    (found : ofRows rows addr = some c) :
    ∃ page before after, addr.page? = some page ∧
      rows page.toNat = some (before ++ c :: after) ∧
      (Cell.join before).length = addr.offset.toNat := by
  obtain ⟨page, on, found⟩ := Option.bind_eq_some_iff.mp found
  obtain ⟨cells, row, found⟩ := Option.bind_eq_some_iff.mp found
  obtain ⟨before, after, rfl, length⟩ := Cell.find?_eq_some found
  exact ⟨page, before, after, on, row, length⟩

/-- Another row on one page changes the heap at one address, if the rows differ only there. -/
theorem ofRows_update {rows : Nat → Option (List Cell)} {addr : Addr} {page : UInt32}
    {cells : List Cell} {c : Cell} (on : addr.page? = some page)
    (differs : ∀ position, Cell.find? cells position =
      if position = addr.offset.toNat then some c
      else Cell.find? ((rows page.toNat).getD []) position) :
    ofRows (fun j => if j = page.toNat then some cells else rows j) = (ofRows rows).put addr c := by
  funext x
  cases on_x : x.page? with
  | none =>
    have other : x ≠ addr := by
      intro same
      subst same
      rw [on] at on_x
      cases on_x
    simp [ofRows, put, other, on_x]
  | some number =>
    by_cases same : number = page
    · subst number
      have here : x.offset.toNat = addr.offset.toNat ↔ x = addr := by
        constructor
        · exact fun offset => Addr.eq_of_page_offset on_x on (UInt32.toNat_inj.mp offset)
        · exact fun eq => eq ▸ rfl
      simp only [ofRows, on_x, Option.bind_some, ↓reduceIte, differs, here, put]
      cases rows page.toNat <;> rfl
    · have differs : number.toNat ≠ page.toNat := fun eq => same (UInt32.toNat_inj.mp eq)
      have other : x ≠ addr := by
        intro same
        subst same
        rw [on] at on_x
        exact same (Option.some.inj on_x).symm
      simp [ofRows, put, on_x, differs, other]

end Heap

/-- The payload that a descriptor names is its first field. -/
theorem Field.payload_of {addr a : Addr} {kind : Kind} {size : UInt32}
    (made : Field.payload.of addr = .ok a) : Descriptor.payload ⟨kind, size, addr⟩ = a := by
  unfold Field.of at made
  split at made
  case h_1 b added =>
    cases made
    simp only [Descriptor.payload, Field.payload] at added ⊢
    rw [added]
    rfl
  case h_2 => cases made

namespace PageStore

structure Holds (s : PageStore) (heap : Heap) : Prop where
  bounded : s.Bounded
  rows : ∃ rows : Nat → Option (List Cell), heap = Heap.ofRows rows ∧
    ∀ i, s.row? i = (rows i).map Cell.join

theorem empty_holds (config : Config) : (empty config).Holds Heap.empty := by
  refine ⟨empty_bounded config, fun _ => none, ?_, ?_⟩
  · funext addr
    cases on : addr.page? <;> simp [Heap.empty, Heap.ofRows, on]
  · intro i
    simp [row?, empty]

variable {s : PageStore} {heap : Heap} {addr : Addr} {c : Cell}

theorem Holds.null (holds : s.Holds heap) : heap .null = none := by
  obtain ⟨rows, rfl, _⟩ := holds.rows
  exact Heap.ofRows_null rows

/-- The bytes of a cell lie at the address, among those given out. -/
structure Lies (s : PageStore) (addr : Addr) (c : Cell) : Prop where
  bounded : s.Bounded
  row : ∃ page before after, addr.page? = some page ∧ before.length = addr.offset.toNat ∧
    s.row? page.toNat = some (before ++ c.bytes ++ after)

theorem Holds.lies (holds : s.Holds heap) (found : heap addr = some c) : s.Lies addr c := by
  obtain ⟨rows, rfl, same⟩ := holds.rows
  obtain ⟨page, before, after, on, row, length⟩ := Heap.ofRows_eq_some found
  exact ⟨holds.bounded, page, Cell.join before, Cell.join after, on, length, by simp [same, row]⟩

/-- A cell lies wherever its bytes are read. -/
theorem lies_of_read (bounded : s.Bounded) (got : s.read addr c.bytes.length = .ok c.bytes) :
    s.Lies addr c := by
  obtain ⟨i, row, index, found, inside, cut⟩ := read_eq_ok_iff_row.mp got
  obtain ⟨page, on, rfl⟩ := Option.map_eq_some_iff.mp index
  refine ⟨bounded, page, row.take addr.offset.toNat,
    row.drop (addr.offset.toNat + c.bytes.length), on, ?_, ?_⟩
  · rw [List.length_take]
    omega
  · rw [found, ← List.drop_drop, ← cut, List.append_assoc, List.length_take, List.length_drop,
      Nat.min_eq_left (by omega), List.take_append_drop, List.take_append_drop]

theorem Lies.ne_null (lies : s.Lies addr c) : addr ≠ .null := by
  obtain ⟨page, _, _, on, _⟩ := lies.row
  intro same
  subst same
  cases on

theorem Holds.ne_null (holds : s.Holds heap) (found : heap addr = some c) : addr ≠ .null :=
  (holds.lies found).ne_null

/-- Where a cell lies there is a page, and a standard page is not too large. -/
theorem Lies.pageSize_le (lies : s.Lies addr c) : s.config.pageSize ≤ 0xFFFFFFFF := by
  obtain ⟨page, _, _, _, _, row⟩ := lies.row
  have bound : page.toNat < s.pages.size := row?_isSome_iff.mp (by rw [row]; rfl)
  exact lies.bounded.pageSize_le (by omega)

theorem Lies.end_le (lies : s.Lies addr c) : addr.offset.toNat + c.bytes.length ≤ 0xFFFFFFFF := by
  obtain ⟨page, before, after, _, length, row⟩ := lies.row
  have bound := row?_length_le lies.bounded row
  simp only [List.length_append] at bound
  omega

theorem Lies.payload_lt (lies : s.Lies addr c) : c.payload.length < 0xFFFFFFFF := by
  have := lies.end_le
  rw [Cell.bytes_length] at this
  omega

theorem Lies.toNat_size (lies : s.Lies addr c) : c.size.toNat = c.payload.length := by
  have := lies.payload_lt
  rw [Cell.size, UInt32.toNat_ofNat', Nat.mod_eq_of_lt (by omega)]

theorem Lies.field (lies : s.Lies addr c) {f : Field} (inside : f.distance.toNat ≤ c.bytes.length) :
    ∃ a, f.of addr = .ok a ∧ a.page? = addr.page? ∧
      a.offset.toNat = addr.offset.toNat + f.distance.toNat := by
  obtain ⟨page, before, after, on, _, _⟩ := lies.row
  have := lies.end_le
  obtain ⟨a, added, on_a, offset⟩ := Addr.add?_within on (d := f.distance) (by omega)
  exact ⟨a, by simp only [Field.of, added], on_a.trans on.symm, offset⟩

theorem read_piece {row : List UInt8} {addr : Addr} {page : UInt32}
    (on : addr.page? = some page) (found : s.row? page.toNat = some row)
    (before piece after : List UInt8) (cut : row = before ++ piece ++ after)
    (length : before.length = addr.offset.toNat) :
    s.read addr piece.length = .ok piece := by
  subst cut
  rw [read_of_row (i := page.toNat) (by rw [on]; rfl) found (by simp; omega), ← length]
  simp

theorem Lies.read (lies : s.Lies addr c) : s.read addr c.bytes.length = .ok c.bytes := by
  obtain ⟨page, before, after, on, length, row⟩ := lies.row
  exact PageStore.read_piece on row before c.bytes after rfl length

theorem Lies.read_piece (lies : s.Lies addr c) (f : Field) (before piece after : List UInt8)
    (cut : c.bytes = before ++ piece ++ after) (length : before.length = f.distance.toNat) :
    ∃ a, f.of addr = .ok a ∧ s.read a piece.length = .ok piece := by
  obtain ⟨page, left, right, on, left_length, row⟩ := lies.row
  obtain ⟨a, made, on_a, offset⟩ := lies.field (f := f) (by simp [cut]; omega)
  refine ⟨a, made, PageStore.read_piece (on_a.trans on) row (left ++ before) piece (after ++ right)
    (by simp [cut]) ?_⟩
  simp only [List.length_append]
  omega

theorem Lies.load_field (lies : s.Lies addr c) [FixedWidth α] (f : Field) (v : α)
    (before after : List UInt8) (cut : c.bytes = before ++ FixedWidth.encode v ++ after)
    (length : before.length = f.distance.toNat) : s.loadField α addr f = .ok v := by
  obtain ⟨a, made, read⟩ := lies.read_piece f before _ after cut length
  rw [FixedWidth.length_encode] at read
  simp [loadField, load, made, read, bind, Except.bind, Except.map,
    FixedWidth.decode_encode]

theorem Holds.replace (holds : s.Holds heap) (found : heap addr = some c) {d : Cell}
    (same : d.bytes.length = c.bytes.length) {t : PageStore} (bounded : t.Bounded)
    (rows : ∀ page before after, addr.page? = some page → before.length = addr.offset.toNat →
      s.row? page.toNat = some (before ++ c.bytes ++ after) →
      ∀ j, t.row? j = if j = page.toNat then some (before ++ d.bytes ++ after) else s.row? j) :
    t.Holds (heap.put addr d) := by
  obtain ⟨cells, rfl, laid⟩ := holds.rows
  obtain ⟨page, before, after, on, row, length⟩ := Heap.ofRows_eq_some found
  refine ⟨bounded, fun j => if j = page.toNat then some (before ++ d :: after) else cells j, ?_, ?_⟩
  · rw [Heap.ofRows_update on]
    intro position
    rw [Cell.find?_replace same, length, row]
    rfl
  · intro j
    rw [rows page (Cell.join before) (Cell.join after) on length (by simp [laid, row])]
    dsimp only
    split
    · simp
    · exact laid j

theorem Holds.store_field (holds : s.Holds heap) (found : heap addr = some c) [FixedWidth α]
    (f : Field) (d : Cell) (v : α) (before old after : List UInt8)
    (cut : c.bytes = before ++ old ++ after) (width : old.length = FixedWidth.width α)
    (length : before.length = f.distance.toNat)
    (changed : d.bytes = before ++ FixedWidth.encode v ++ after) :
    ∃ t, s.storeField addr f v = .ok t ∧ t.room = s.room ∧ t.Holds (heap.put addr d) := by
  have lies := holds.lies found
  obtain ⟨page, left, right, on, left_length, row⟩ := lies.row
  obtain ⟨a, made, on_a, offset⟩ := lies.field (f := f) (by simp [cut]; omega)
  have same : (FixedWidth.encode v).length = old.length := by rw [FixedWidth.length_encode, width]
  have inside : a.offset.toNat + (FixedWidth.encode v).length ≤
      (left ++ c.bytes ++ right).length := by
    simp only [cut, List.length_append]
    omega
  obtain ⟨t, written, bounded, room, rows⟩ :=
    write_of_row holds.bounded (i := page.toNat) (by rw [on_a, on]; rfl) row inside
  refine ⟨t, by simp only [storeField, store, made, written, bind, Except.bind], room,
    holds.replace found (by simp [cut, changed, same]) bounded ?_⟩
  intro number first rest on' first_length row' j
  obtain rfl : page = number := Option.some.inj (on.symm.trans on')
  have split_same : left = first ∧ right = rest := by
    have eq := Option.some.inj (row.symm.trans row')
    rw [List.append_assoc, List.append_assoc] at eq
    have heads := List.append_inj eq (by omega)
    exact ⟨heads.1, (List.append_cancel_left heads.2)⟩
  obtain ⟨rfl, rfl⟩ := split_same
  rw [rows]
  split
  · have shape : left ++ c.bytes ++ right = (left ++ before) ++ old ++ (after ++ right) := by
      simp [cut]
    rw [shape, splice_middle (by simp; omega) same]
    simp [changed]
  · rfl

end PageStore
end ValueArena
