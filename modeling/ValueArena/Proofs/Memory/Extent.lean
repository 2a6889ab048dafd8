import ValueArena.Proofs.Memory.Address
import ValueArena.Proofs.Memory.History
import ValueArena.Value.Layout

/-!
Stretches of memory. A read or a write succeeds exactly if all its bytes lie on one page below its
cursor, and a stretch that lies there once does so for good.
-/
namespace ValueArena.PageStore

/-- The page that an address points into. -/
def pageOf? (s : PageStore) (addr : Addr) : Option Page :=
  addr.page?.bind fun page => s.pages[page.toNat]?

/-- The `len` bytes from an address on lie on its page, below the cursor. -/
def Covers (s : PageStore) (addr : Addr) (len : Nat) : Prop :=
  ∃ page, s.pageOf? addr = some page ∧ addr.offset.toNat + len ≤ page.used

variable {s t : PageStore} {addr : Addr} {len : Nat}

theorem pageOf?_eq_some_iff {page : Page} :
    s.pageOf? addr = some page ↔
      ∃ i, addr.page?.map UInt32.toNat = some i ∧ s.pages[i]? = some page := by
  unfold pageOf?
  cases addr.page? <;> simp

theorem covers_iff_row : s.Covers addr len ↔
    ∃ i row, addr.page?.map UInt32.toNat = some i ∧ s.row? i = some row ∧
      addr.offset.toNat + len ≤ row.length := by
  constructor
  · intro given
    obtain ⟨page, found, inside⟩ := given
    obtain ⟨i, index, at_i⟩ := pageOf?_eq_some_iff.mp found
    exact ⟨i, page.contents, index, by simp [row?, at_i], by simpa using inside⟩
  · intro given
    obtain ⟨i, row, index, found, inside⟩ := given
    obtain ⟨page, at_i, rfl⟩ := Option.map_eq_some_iff.mp found
    exact ⟨page, pageOf?_eq_some_iff.mpr ⟨i, index, at_i⟩, by simpa using inside⟩

theorem Covers.locate (covers : s.Covers addr len) : ∃ found, s.locate addr len = .ok found :=
  locate_eq_ok_iff_row.mpr (covers_iff_row.mp covers)

theorem locate_of_not_covers (outside : ¬ s.Covers addr len) :
    s.locate addr len = .error (.invalidAddress addr) := by
  cases located : s.locate addr len with
  | ok found => exact absurd (covers_iff_row.mpr (locate_eq_ok_iff_row.mp ⟨found, located⟩)) outside
  | error e =>
    unfold PageStore.locate at located
    grind

theorem Covers.read {page : Page} (covers : s.Covers addr len)
    (found : s.pageOf? addr = some page) :
    s.read addr len = .ok (page.bytes.read addr.offset.toNat len) := by
  obtain ⟨same, found', inside⟩ := covers
  obtain rfl : page = same := Option.some.inj (found.symm.trans found')
  obtain ⟨i, index, at_i⟩ := pageOf?_eq_some_iff.mp found
  exact read_eq_ok_iff.mpr ⟨i, page, locate_eq_ok_iff.mpr ⟨index, at_i, inside⟩, rfl⟩

theorem read_of_not_covers (outside : ¬ s.Covers addr len) :
    s.read addr len = .error (.invalidAddress addr) := by
  simp only [PageStore.read, locate_of_not_covers outside, bind, Except.bind]

theorem Covers.load {α : Type} [FixedWidth α] {page : Page}
    (covers : s.Covers addr (FixedWidth.width α)) (found : s.pageOf? addr = some page) :
    s.load α addr =
      .ok (FixedWidth.decode (page.bytes.read addr.offset.toNat (FixedWidth.width α))) := by
  simp only [PageStore.load, covers.read found, Except.map]

theorem load_of_not_covers {α : Type} [FixedWidth α]
    (outside : ¬ s.Covers addr (FixedWidth.width α)) :
    s.load α addr = .error (.invalidAddress addr) := by
  simp only [PageStore.load, read_of_not_covers outside, Except.map]

theorem Covers.write {bs : List UInt8} (covers : s.Covers addr bs.length) :
    ∃ t, s.write addr bs = .ok t := by
  obtain ⟨⟨i, page⟩, located⟩ := covers.locate
  exact ⟨_, write_eq_ok_iff.mpr ⟨i, page, located, rfl⟩⟩

theorem write_of_not_covers {bs : List UInt8} (outside : ¬ s.Covers addr bs.length) :
    s.write addr bs = .error (.invalidAddress addr) := by
  simp only [PageStore.write, locate_of_not_covers outside, bind, Except.bind]

theorem Covers.store [FixedWidth α] (covers : s.Covers addr (FixedWidth.width α)) (v : α) :
    ∃ t, s.store addr v = .ok t := by
  rw [← FixedWidth.length_encode v] at covers
  exact covers.write

theorem store_of_not_covers [FixedWidth α] (outside : ¬ s.Covers addr (FixedWidth.width α))
    (v : α) : s.store addr v = .error (.invalidAddress addr) := by
  rw [← FixedWidth.length_encode v] at outside
  exact write_of_not_covers outside

theorem used_le (bounded : s.Bounded) {page : Page} (found : s.pageOf? addr = some page) :
    page.used ≤ 0xFFFFFFFF := by
  obtain ⟨i, _, at_i⟩ := pageOf?_eq_some_iff.mp found
  have := bounded.used_le i page at_i
  omega

/-- A field of a stretch is reached without leaving its page. -/
theorem Covers.field (bounded : s.Bounded) (covers : s.Covers addr len) {f : Field} {n : Nat}
    (inside : f.distance.toNat + n ≤ len) :
    ∃ x, f.of addr = .ok x ∧ x.page? = addr.page? ∧
      x.offset.toNat = addr.offset.toNat + f.distance.toNat ∧ s.Covers x n := by
  obtain ⟨page, found, below⟩ := covers
  have bound := used_le bounded found
  obtain ⟨number, on, _⟩ := Option.bind_eq_some_iff.mp found
  obtain ⟨x, added, on_x, offset⟩ := Addr.add?_within on (d := f.distance) (by omega)
  have same : x.page? = addr.page? := on_x.trans on.symm
  refine ⟨x, by simp only [Field.of, added], same, offset, page, ?_, by omega⟩
  rw [pageOf?, same]
  exact found

theorem field_eq_ok_iff {f : Field} {x : Addr} :
    f.of addr = .ok x ↔ addr.add? f.distance = some x := by
  unfold Field.of
  cases addr.add? f.distance <;> simp

/-- A field that can be reached but not read lies past the cursor. -/
theorem covers_of_field {f : Field} {x : Addr} {n : Nat} (made : f.of addr = .ok x)
    (covers : s.Covers x n) : s.Covers addr (f.distance.toNat + n) := by
  obtain ⟨page, on, on_x, offset⟩ := Addr.add?_eq_some_iff.mp (field_eq_ok_iff.mp made)
  obtain ⟨found, at_x, inside⟩ := covers
  have same : s.pageOf? addr = s.pageOf? x := by rw [pageOf?, pageOf?, on, on_x]
  exact ⟨found, same.trans at_x, by omega⟩

theorem field_error {f : Field} {e : MemoryError} (refused : f.of addr = .error e) :
    e = .invalidAddress addr := by
  unfold Field.of at refused
  split at refused
  · cases refused
  · exact (Except.error.inj refused).symm

/-- A row that is there stays, and only becomes longer. -/
theorem row?_call (bounded : s.Bounded) (c : Call) {i : Nat} {row : List UInt8}
    (found : s.row? i = some row) :
    ∃ longer, (s.call c).2.row? i = some longer ∧ row.length ≤ longer.length := by
  -- A reservation grows one row at its end, a write changes bytes within one.
  cases c with
  | reserve len =>
    rcases reserve_cases bounded len with ⟨n, m, refused, _⟩ | ⟨addr, t, served, _, gives⟩
    · simp only [call, refused]
      exact ⟨row, found, Nat.le_refl _⟩
    · obtain ⟨j, draft, _, _, _, _, rows⟩ := gives.row
      simp only [call, served, rows]
      split
      case isTrue same =>
        subst same
        exact ⟨_, rfl, by simp [found]⟩
      case isFalse => exact ⟨row, found, Nat.le_refl _⟩
  | write addr bytes =>
    rcases write_cases bounded addr bytes with
      ⟨e, refused⟩ | ⟨j, old, t, _, at_j, inside, written, _, rows⟩
    · simp only [call, refused]
      exact ⟨row, found, Nat.le_refl _⟩
    · simp only [call, written, rows]
      split
      case isTrue same =>
        subst same
        obtain rfl := Option.some.inj (found.symm.trans at_j)
        exact ⟨_, rfl, Nat.le_of_eq (splice_length inside).symm⟩
      case isFalse => exact ⟨row, found, Nat.le_refl _⟩

theorem Bounded.call (bounded : s.Bounded) (c : Call) : (s.call c).2.Bounded := by
  have tracks : s.Tracks [] := ⟨bounded, by simp, .nil⟩
  exact (tracks.call c).1.bounded

theorem Covers.callAll (bounded : s.Bounded) (covers : s.Covers addr len) (calls : List Call) :
    (callAll calls s).2.Covers addr len := by
  induction calls generalizing s with
  | nil => exact covers
  | cons c rest ih =>
    obtain ⟨i, row, index, found, inside⟩ := covers_iff_row.mp covers
    obtain ⟨longer, found', length⟩ := row?_call bounded c found
    exact ih (bounded.call c) (covers_iff_row.mpr ⟨i, longer, index, found', by omega⟩)

theorem bounded_callAll (config : Config) (calls : List Call) :
    (callAll calls (.empty config)).2.Bounded :=
  ((empty_tracks config).callAll calls).1.bounded

end ValueArena.PageStore
