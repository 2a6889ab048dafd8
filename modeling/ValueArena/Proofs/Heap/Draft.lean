import ValueArena.Proofs.Heap.Holds

/-!
A cell on its way into a store. Its bytes are given out first, at the end of a row, and then written
in order from the tag on. Whatever was given out before stays as it was. Once no byte is left the
cell lies in the store, and a store that held a heap holds one with a cell more.
-/
namespace ValueArena.PageStore

/-- What is read from `s` is read from `t` too. -/
def Keeps (s t : PageStore) : Prop :=
  ∀ addr len bs, s.read addr len = .ok bs → t.read addr len = .ok bs

/-- `t` is `s` with bytes given out for a cell at `addr`: some are written, `left` are not. -/
structure Drafts (s t : PageStore) (addr : Addr) (written : List UInt8) (left : Nat) : Prop where
  bounded : t.Bounded
  row : ∃ (page : UInt32) (rest : List UInt8), addr.page? = some page ∧ rest.length = left ∧
    ((s.row? page.toNat).getD []).length = addr.offset.toNat ∧
    ∀ i, t.row? i =
      if i = page.toNat then some ((s.row? i).getD [] ++ written ++ rest) else s.row? i

variable {s t u : PageStore} {heap : Heap} {addr : Addr} {written : List UInt8} {left : Nat}

theorem Keeps.refl (s : PageStore) : s.Keeps s := fun _ _ _ got => got

theorem Keeps.trans (first : s.Keeps t) (second : t.Keeps u) : s.Keeps u :=
  fun addr len bs got => second addr len bs (first addr len bs got)

theorem GivesOut.drafts {len : Nat} (gives : s.GivesOut len addr t) : s.Drafts t addr [] len := by
  obtain ⟨i, draft, index, _, length, position, row⟩ := gives.row
  obtain ⟨page, on, rfl⟩ := Option.map_eq_some_iff.mp index
  refine ⟨gives.bounded, page, draft, on, length, position.symm, ?_⟩
  intro j
  rw [row, List.append_nil]
  split
  case isTrue same => rw [same]
  case isFalse => rfl

theorem Drafts.end_le (drafts : s.Drafts t addr written left) :
    addr.offset.toNat + written.length + left ≤ 0xFFFFFFFF := by
  obtain ⟨page, rest, _, length, position, row⟩ := drafts.row
  have bound := row?_length_le drafts.bounded ((row page.toNat).trans (if_pos rfl))
  simp only [List.length_append] at bound
  omega

/-- Nothing of it had been given out. -/
theorem Drafts.fresh (drafts : s.Drafts t addr written left) {len : Nat} (some_byte : 0 < len)
    (bs : List UInt8) : s.read addr len ≠ .ok bs := by
  intro got
  obtain ⟨page, _, on, _, position, _⟩ := drafts.row
  obtain ⟨i, row, index, found, inside, _⟩ := read_eq_ok_iff_row.mp got
  rw [on] at index
  cases index
  rw [found, Option.getD_some] at position
  omega

theorem Drafts.keeps (drafts : s.Drafts t addr written left) : s.Keeps t := by
  intro a len bs got
  obtain ⟨page, rest, _, _, _, rows⟩ := drafts.row
  obtain ⟨i, row, index, found, inside, rfl⟩ := read_eq_ok_iff_row.mp got
  by_cases here : i = page.toNat
  · have longer : t.row? i = some (row ++ (written ++ rest)) := by
      rw [rows, if_pos here, found, Option.getD_some, List.append_assoc]
    refine read_eq_ok_iff_row.mpr ⟨i, _, index, longer, by rw [List.length_append]; omega, ?_⟩
    rw [List.drop_append_of_le_length (by omega),
      List.take_append_of_le_length (by rw [List.length_drop]; omega)]
  · exact read_eq_ok_iff_row.mpr ⟨i, row, index, by rw [rows, if_neg here, found], inside, rfl⟩

theorem Drafts.write (drafts : s.Drafts t addr written left) {a : Addr} (bs : List UInt8)
    (on_a : a.page? = addr.page?) (next : a.offset.toNat = addr.offset.toNat + written.length)
    (enough : bs.length ≤ left) :
    ∃ u, t.write a bs = .ok u ∧ u.room = t.room ∧
      s.Drafts u addr (written ++ bs) (left - bs.length) := by
  obtain ⟨page, rest, on, length, position, row⟩ := drafts.row
  have here := (row page.toNat).trans (if_pos rfl)
  obtain ⟨u, wrote, bounded, room, after⟩ :=
    write_of_row drafts.bounded (i := page.toNat) (by rw [on_a, on]; rfl) here
      (show a.offset.toNat + bs.length ≤ _ by simp only [List.length_append]; omega)
  have spliced : splice ((s.row? page.toNat).getD [] ++ written ++ rest) a.offset.toNat bs =
      (s.row? page.toNat).getD [] ++ (written ++ bs) ++ rest.drop bs.length := by
    have cut : rest = rest.take bs.length ++ rest.drop bs.length :=
      (List.take_append_drop _ _).symm
    rw [cut, ← List.append_assoc, splice_middle]
    · simp
    · simp only [List.length_append]
      omega
    · rw [List.length_take]
      omega
  refine ⟨u, wrote, room, bounded, page, rest.drop bs.length, on, ?_, position, ?_⟩
  · rw [List.length_drop, length]
  · intro i
    rw [after, spliced, row]
    split
    case isTrue same => rw [same]
    case isFalse => rfl

theorem Drafts.store_tag (drafts : s.Drafts t addr [] left) (kind : Kind) (enough : 1 ≤ left) :
    ∃ u, t.store addr kind.tag = .ok u ∧ u.room = t.room ∧
      s.Drafts u addr [kind.tag] (left - 1) := by
  have tag : FixedWidth.encode kind.tag = [kind.tag] := by
    simp [FixedWidth.encode, LittleEndian.toBytes]
  obtain ⟨u, wrote, room, after⟩ :=
    drafts.write (FixedWidth.encode kind.tag) rfl rfl (by rw [tag]; exact enough)
  rw [tag] at after
  exact ⟨u, wrote, room, after⟩

/-- The field that follows what is written lies within the page. -/
theorem Drafts.field (drafts : s.Drafts t addr written left) {f : Field}
    (next : f.distance.toNat = written.length) :
    ∃ a, f.of addr = .ok a ∧ a.page? = addr.page? ∧
      a.offset.toNat = addr.offset.toNat + written.length := by
  have inside := drafts.end_le
  obtain ⟨page, _, on, _⟩ := drafts.row
  obtain ⟨a, added, on_a, offset⟩ := Addr.add?_within on (d := f.distance) (by omega)
  exact ⟨a, by simp only [Field.of, added], on_a.trans on.symm, by rw [offset, next]⟩

theorem Drafts.store_field (drafts : s.Drafts t addr written left) [FixedWidth α] (f : Field)
    (v : α) (next : f.distance.toNat = written.length) (enough : FixedWidth.width α ≤ left) :
    ∃ u, t.storeField addr f v = .ok u ∧ u.room = t.room ∧
      s.Drafts u addr (written ++ FixedWidth.encode v) (left - FixedWidth.width α) := by
  obtain ⟨a, made, on_a, offset⟩ := drafts.field next
  obtain ⟨u, wrote, room, after⟩ := drafts.write (FixedWidth.encode v) on_a offset
    (by rw [FixedWidth.length_encode]; exact enough)
  rw [FixedWidth.length_encode] at after
  exact ⟨u, by simp only [storeField, store, made, wrote, bind, Except.bind], room, after⟩

theorem Drafts.lies {c : Cell} (drafts : s.Drafts t addr c.bytes 0) : t.Lies addr c := by
  obtain ⟨page, rest, on, _, position, row⟩ := drafts.row
  exact ⟨drafts.bounded, page, (s.row? page.toNat).getD [], rest, on, position,
    by rw [row, if_pos rfl]⟩

theorem Drafts.holds {c : Cell} (drafts : s.Drafts t addr c.bytes 0) (holds : s.Holds heap) :
    heap addr = none ∧ t.Holds (heap.put addr c) := by
  obtain ⟨page, rest, on, length, position, row⟩ := drafts.row
  obtain rfl := List.eq_nil_of_length_eq_zero length
  obtain ⟨rows, rfl, laid⟩ := holds.rows
  have before : (s.row? page.toNat).getD [] = Cell.join ((rows page.toNat).getD []) := by
    rw [laid]
    cases rows page.toNat <;> rfl
  rw [before] at position
  constructor
  · simp only [Heap.ofRows, on, Option.bind_some, ← position]
    cases rows page.toNat with
    | none => rfl
    | some cells => exact Cell.find?_join_length cells
  · refine ⟨drafts.bounded, fun j => if j = page.toNat then
      some ((rows page.toNat).getD [] ++ [c]) else rows j, ?_, ?_⟩
    · rw [Heap.ofRows_update on]
      intro i
      rw [Cell.find?_push, position]
    · intro i
      rw [row]
      dsimp only
      split
      case isTrue same => simp [same, before]
      case isFalse => exact laid i

end ValueArena.PageStore
