import ValueArena.Arena.Reading
import ValueArena.Proofs.Heap.Holds

/-!
What is read back from a store that holds a heap: the handle of a cell from its address, and every
field of it.
-/
namespace ValueArena

/-- How the value at an address is seen from outside; the empty slot where no cell starts. -/
def Heap.handleAt (heap : Heap) (addr : Addr) : Handle :=
  match heap addr with
  | some c => .stored ⟨c.kind, c.size, addr⟩
  | none => .none

theorem Heap.handleAt_of_some {heap : Heap} {addr : Addr} {c : Cell} (found : heap addr = some c) :
    heap.handleAt addr = .stored ⟨c.kind, c.size, addr⟩ := by simp [handleAt, found]

theorem Heap.handleAt_of_none {heap : Heap} {addr : Addr} (absent : heap addr = none) :
    heap.handleAt addr = .none := by simp [handleAt, absent]

namespace PageStore

variable {s : PageStore} {heap : Heap} {addr : Addr} {c : Cell}

theorem Lies.load_tag (lies : s.Lies addr c) :
    s.load UInt8 addr = .ok c.kind.tag := by
  obtain ⟨page, before, after, on, length, row⟩ := lies.row
  have tag : FixedWidth.encode c.kind.tag = [c.kind.tag] := by
    simp [FixedWidth.encode, LittleEndian.toBytes]
  have read := PageStore.read_piece on row before (FixedWidth.encode c.kind.tag)
    (c.payload ++ after) (by simp [tag, Cell.bytes]) length
  rw [FixedWidth.length_encode] at read
  simp only [load, read, Except.map, FixedWidth.decode_encode]

theorem Lies.payload_size (lies : s.Lies addr c) :
    s.payloadSize c.kind addr = .ok c.size := by
  have bound := lies.payload_lt
  by_cases text : c.kind = .string
  · obtain ⟨v, rfl⟩ : ∃ v, c = .plain (.string v) := by
      cases c with
      | plain content => cases content <;> simp [Cell.kind, Content.kind] at text ⊢
      | list | item | object => simp [Cell.kind] at text
    have length : (Cell.plain (.string v)).payload.length = (Utf8.encode v).length + 4 := by
      simp only [Cell.payload, Content.payload, List.length_append, FixedWidth.length_encode]
      exact Nat.add_comm 4 _
    have small : (UInt32.ofNat (Utf8.encode v).length).toNat = (Utf8.encode v).length := by
      rw [UInt32.toNat_ofNat', Nat.mod_eq_of_lt (by omega)]
    have prefix_read : s.loadField UInt32 addr .stringLength =
        .ok (UInt32.ofNat (Utf8.encode v).length) :=
      lies.load_field _ _ [Kind.string.tag] (Utf8.encode v)
        (by simp [Cell.bytes, Cell.payload, Content.payload, Cell.kind, Content.kind]) rfl
    simp only [Cell.kind, Content.kind, payloadSize, prefix_read, bind, Except.bind]
    rw [if_pos (by omega), Cell.size, length, UInt32.ofNat_add]
    rfl
  · have fixed := Cell.payload_length text
    have size : c.size = c.kind.fixedSize := by rw [Cell.size, fixed, UInt32.ofNat_toNat]
    unfold payloadSize
    split
    case h_1 eq => exact absurd eq text
    case h_2 => rw [size]

theorem decode_of_tag {kind : Kind} (tag : s.load UInt8 addr = .ok kind.tag)
    (stored : kind ≠ .value) :
    s.decode addr = (s.payloadSize kind addr).bind fun size =>
      (s.locate addr (1 + size.toNat)).bind fun _ => .ok ⟨kind, size, addr⟩ := by
  cases kind with
  | value => exact absurd rfl stored
  | _ =>
    simp only [decode, tag, Kind.ofTag?_tag, bind, Except.bind]

theorem Lies.decode_eq (lies : s.Lies addr c) :
    s.decode addr = .ok ⟨c.kind, c.size, addr⟩ := by
  obtain ⟨page, before, after, on, length, row⟩ := lies.row
  have inside : addr.offset.toNat + (1 + c.size.toNat) ≤ (before ++ c.bytes ++ after).length := by
    rw [lies.toNat_size]
    simp only [List.length_append, Cell.bytes_length]
    omega
  obtain ⟨place, located⟩ :=
    locate_eq_ok_iff_row.mpr ⟨page.toNat, _, by rw [on]; rfl, row, inside⟩
  rw [decode_of_tag lies.load_tag c.kind_ne_value, lies.payload_size, Except.bind,
    located]
  rfl

theorem Lies.load_bytes {v : String} (lies : s.Lies addr (.plain (.string v))) :
    s.loadBytes ⟨.string, (Cell.plain (.string v)).size, addr⟩ = .ok (Utf8.encode v) := by
  obtain ⟨a, made, read⟩ := lies.read_piece .stringBytes
    (Kind.string.tag :: FixedWidth.encode (UInt32.ofNat (Utf8.encode v).length)) (Utf8.encode v) []
    (by simp [Cell.bytes, Cell.payload, Content.payload, Cell.kind, Content.kind])
    (by simp [FixedWidth.length_encode]; rfl)
  have length : (Cell.plain (.string v)).size.toNat - 4 = (Utf8.encode v).length := by
    rw [lies.toNat_size]
    simp only [Cell.payload, Content.payload, List.length_append, FixedWidth.length_encode]
    exact Nat.add_sub_cancel_left 4 _
  simp only [loadBytes, made, length, read, bind, Except.bind]

theorem Lies.payload_field (lies : s.Lies addr c) (kind : Kind) (size : UInt32)
    (some_payload : c.payload ≠ []) :
    Field.payload.of addr = .ok (Descriptor.payload ⟨kind, size, addr⟩) := by
  have positive := List.length_pos_iff.mpr some_payload
  obtain ⟨a, made, _⟩ := lies.field (f := .payload) (by
    rw [Cell.bytes_length]
    change 1 ≤ _
    omega)
  rw [made, Field.payload_of made]

theorem Lies.load_payload (lies : s.Lies addr c) [FixedWidth α] {v : α} {kind : Kind}
    {size : UInt32} (content : c.payload = FixedWidth.encode v) (wide : 0 < FixedWidth.width α) :
    s.load α (Descriptor.payload ⟨kind, size, addr⟩) = .ok v := by
  have some_payload : c.payload ≠ [] := by
    rw [content, ← List.length_pos_iff, FixedWidth.length_encode]
    exact wide
  have field := lies.load_field .payload v [c.kind.tag] []
    (by simp [Cell.bytes, content]) rfl
  rw [loadField, lies.payload_field kind size some_payload] at field
  exact field

theorem Holds.store_payload (holds : s.Holds heap) (found : heap addr = some c) [FixedWidth α]
    {v : α} {d : Cell} (kind : Kind) (size : UInt32) (same : d.kind = c.kind)
    (width : c.payload.length = FixedWidth.width α) (wide : 0 < FixedWidth.width α)
    (content : d.payload = FixedWidth.encode v) :
    ∃ t, s.store (Descriptor.payload ⟨kind, size, addr⟩) v = .ok t ∧ t.room = s.room ∧
      t.Holds (heap.put addr d) := by
  obtain ⟨t, stored, room, holds_t⟩ := holds.store_field found .payload d v [c.kind.tag] c.payload
    [] (by simp [Cell.bytes]) width rfl (by simp [Cell.bytes, content, same])
  have some_payload : c.payload ≠ [] := by
    rw [← List.length_pos_iff, width]
    exact wide
  rw [storeField, (holds.lies found).payload_field kind size some_payload] at stored
  exact ⟨t, stored, room, holds_t⟩

end PageStore

namespace Arena

variable {a : Arena} {heap : Heap} {addr : Addr}

theorem decode_of_lies {c : Cell} (lies : a.store.Lies addr c) :
    a.decode addr = .ok (.stored ⟨c.kind, c.size, addr⟩) := by
  have stored := Addr.isNull_eq_false lies.ne_null
  simp [decode, stored, lies.decode_eq, Except.map]

theorem decode_of_holds (holds : a.store.Holds heap) {c : Cell} (found : heap addr = some c) :
    a.decode addr = .ok (heap.handleAt addr) := by
  rw [Heap.handleAt_of_some found]
  exact decode_of_lies (holds.lies found)

theorem decode_null (holds : a.store.Holds heap) : a.decode .null = .ok (heap.handleAt .null) := by
  rw [Heap.handleAt_of_none holds.null]
  rfl

/-- A handle of a cell is one of stored memory, whatever size it gives. -/
theorem descriptor?_of_lies {c : Cell} {size : UInt32} (lies : a.store.Lies addr c) :
    (Handle.stored ⟨c.kind, size, addr⟩).descriptor? = some ⟨c.kind, size, addr⟩ := by
  simp [Handle.descriptor?, Addr.isNull_eq_false lies.ne_null]

theorem storedValue_of_lies {c : Cell} {size : UInt32} (lies : a.store.Lies addr c) :
    storedValue (.stored ⟨c.kind, size, addr⟩) = .ok ⟨c.kind, size, addr⟩ := by
  simp only [storedValue, descriptor?_of_lies lies]

end Arena
end ValueArena
