import ValueArena.Number.Binary32
import ValueArena.Proofs.Memory.Extent
import ValueArena.Step

/-!
Values of a fixed width as lenses on a store. Where one can be read one can be written; what was
written is read back, no other byte changes, and to write what was read changes none at all.
-/
namespace ValueArena.PageStore

/-- The byte at an offset of a page, given out or not. -/
def cell? (s : PageStore) (i k : Nat) : Option UInt8 := s.pages[i]?.map (·.bytes.get k)

/-- The stores differ in nothing but the bytes at these offsets of these pages. -/
structure AlikeBut (s t : PageStore) (changed : Nat → Nat → Prop) : Prop where
  config : t.config = s.config
  reserved : t.reserved = s.reserved
  cursors : t.pages.map (fun p => (p.capacity, p.used)) =
    s.pages.map fun p => (p.capacity, p.used)
  bytes : ∀ i k, ¬ changed i k → t.cell? i k = s.cell? i k

/-- The two stores are the same to everything that looks at pages. -/
def Alike (s t : PageStore) : Prop := s.AlikeBut t fun _ _ => False

/-- Values that are numbers of `width` bytes, the lowest first, are a lens at the address. -/
structure Lens (s : PageStore) (α : Type) [FixedWidth α] (width : Nat) (number : α → Nat)
    (addr : Addr) : Prop where
  writes : ∀ v : α, (∃ t, s.store addr v = .ok t) ↔ ∃ w, s.load α addr = .ok w
  loads : ∀ (v : α) t, s.store addr v = .ok t → t.load α addr = .ok v
  bytes : ∀ (v : α) t, s.store addr v = .ok t →
    t.read addr width = .ok (LittleEndian.toBytes width (number v))
  elsewhere : ∀ (v : α) t, s.store addr v = .ok t → s.AlikeBut t (addr.Spans width)
  same : ∀ (v : α) t, s.load α addr = .ok v → s.store addr v = .ok t → s.Alike t
  refused : ∀ (v : α) e t, (Step.update (·.store addr v) : Step MemoryError PageStore Unit) s =
    (.error e, t) → e = .invalidAddress addr ∧ t = s

/-- A text was written behind the tag at the address, with the count of its bytes. -/
structure HasText (s : PageStore) (addr : Addr) (text : String) (t : PageStore) : Prop where
  tag : t.load UInt8 addr = s.load UInt8 addr
  elsewhere : s.AlikeBut t fun i k =>
    addr.Spans (1 + 4 + text.utf8ByteSize) i k ∧ k ≠ addr.offset.toNat
  length : ∃ n, t.loadField UInt32 addr .stringLength = .ok n ∧ n.toNat = text.utf8ByteSize
  bytes : ∃ x bs, Field.stringBytes.of addr = .ok x ∧ t.read x text.utf8ByteSize = .ok bs ∧
    bs.toByteArray = text.toByteArray

variable {s t u : PageStore} {addr : Addr} {bs : List UInt8}

/-- A write changes the bytes that it is given and no others. -/
theorem cell?_write (written : s.write addr bs = .ok t) (i k : Nat) :
    (addr.Spans bs.length i k → t.cell? i k = bs[k - addr.offset.toNat]?) ∧
      (¬ addr.Spans bs.length i k → t.cell? i k = s.cell? i k) := by
  obtain ⟨j, page, located, rfl⟩ := write_eq_ok_iff.mp written
  obtain ⟨index, found, _⟩ := locate_eq_ok_iff.mp located
  have bound := (Array.getElem?_eq_some_iff.mp found).1
  constructor
  · rintro ⟨on, start, stop⟩
    obtain rfl := Option.some.inj (index.symm.trans on)
    have inside : k - addr.offset.toNat < bs.length := by omega
    simp [cell?, getElem?_put, bound, SparseBytes.get_write, start, inside]
  · intro outside
    by_cases here : j = i
    · subst here
      have missed : ¬ (addr.offset.toNat ≤ k ∧ k - addr.offset.toNat < bs.length) := fun within =>
        outside ⟨index, within.1, by omega⟩
      simp only [cell?, getElem?_put, bound, ↓reduceIte, found, Option.map_some,
        SparseBytes.get_write]
      split
      case isTrue start =>
        rw [List.getElem?_eq_none (Nat.le_of_not_lt fun short => missed ⟨start, short⟩)]
        rfl
      case isFalse => rfl
    · simp only [cell?, getElem?_put, here, ↓reduceIte]

theorem cursors_write (written : s.write addr bs = .ok t) :
    t.pages.map (fun p => (p.capacity, p.used)) =
      s.pages.map fun p => (p.capacity, p.used) := by
  obtain ⟨j, page, located, rfl⟩ := write_eq_ok_iff.mp written
  obtain ⟨_, found, _⟩ := locate_eq_ok_iff.mp located
  have bound := (Array.getElem?_eq_some_iff.mp found).1
  apply Array.ext_getElem?
  intro i
  rw [Array.getElem?_map, Array.getElem?_map, getElem?_put]
  split
  case isTrue here =>
    subst here
    rw [found]
    rfl
  case isFalse => rfl

theorem alikeBut_write (written : s.write addr bs = .ok t) :
    s.AlikeBut t (addr.Spans bs.length) where
  config := by
    obtain ⟨_, _, _, rfl⟩ := write_eq_ok_iff.mp written
    rfl
  reserved := by
    obtain ⟨_, _, _, rfl⟩ := write_eq_ok_iff.mp written
    rfl
  cursors := cursors_write written
  bytes i k := (cell?_write written i k).2

namespace AlikeBut

variable {p q r : Nat → Nat → Prop}

theorem symm (alike : s.AlikeBut t p) : t.AlikeBut s p :=
  ⟨alike.config.symm, alike.reserved.symm, alike.cursors.symm,
    fun i k kept => (alike.bytes i k kept).symm⟩

theorem trans (first : s.AlikeBut t p) (second : t.AlikeBut u q) (within : ∀ i k, p i k → r i k)
    (within' : ∀ i k, q i k → r i k) : s.AlikeBut u r where
  config := second.config.trans first.config
  reserved := second.reserved.trans first.reserved
  cursors := second.cursors.trans first.cursors
  bytes i k kept := (second.bytes i k (mt (within' i k) kept)).trans
    (first.bytes i k (mt (within i k) kept))

/-- A page is found where it was, with the same cursor. -/
theorem pageOf? (alike : s.AlikeBut t p) {page : Page} (found : s.pageOf? addr = some page) :
    ∃ i page', addr.page?.map UInt32.toNat = some i ∧ t.pageOf? addr = some page' ∧
      page'.used = page.used ∧ ∀ k, ¬ p i k → page'.bytes.get k = page.bytes.get k := by
  obtain ⟨i, index, at_i⟩ := pageOf?_eq_some_iff.mp found
  have cursor := congrArg (·[i]?) alike.cursors
  simp only [Array.getElem?_map, at_i, Option.map_some] at cursor
  obtain ⟨page', at_i', same⟩ := Option.map_eq_some_iff.mp cursor
  refine ⟨i, page', index, pageOf?_eq_some_iff.mpr ⟨i, index, at_i'⟩, congrArg Prod.snd same, ?_⟩
  intro k kept
  have byte := alike.bytes i k kept
  simpa [cell?, at_i, at_i'] using byte

theorem covers (alike : s.AlikeBut t p) {len : Nat} (covers : s.Covers addr len) :
    t.Covers addr len := by
  obtain ⟨page, found, inside⟩ := covers
  obtain ⟨_, page', _, found', used, _⟩ := alike.pageOf? found
  exact ⟨page', found', by omega⟩

/-- A read that meets none of the bytes that differ answers alike, also when it is refused. -/
theorem read (alike : s.AlikeBut t p) {len : Nat}
    (apart : ∀ i k, addr.Spans len i k → ¬ p i k) : t.read addr len = s.read addr len := by
  by_cases covers : s.Covers addr len
  · obtain ⟨page, found, inside⟩ := covers
    obtain ⟨i, page', index, found', used, kept⟩ := alike.pageOf? found
    rw [Covers.read ⟨page', found', by omega⟩ found', Covers.read ⟨page, found, inside⟩ found,
      SparseBytes.read_eq_map, SparseBytes.read_eq_map]
    refine congrArg Except.ok (List.map_congr_left fun j member => ?_)
    have := List.mem_range.mp member
    exact kept _ (apart i _ ⟨index, by omega, by omega⟩)
  · rw [read_of_not_covers covers, read_of_not_covers (mt alike.symm.covers covers)]

theorem load (alike : s.AlikeBut t p) {α : Type} [FixedWidth α]
    (apart : ∀ i k, addr.Spans (FixedWidth.width α) i k → ¬ p i k) :
    t.load α addr = s.load α addr := by
  simp only [PageStore.load, alike.read apart]

end AlikeBut

/-- To write the bytes that are there changes nothing. -/
theorem alike_write_read {len : Nat} (got : s.read addr len = .ok bs)
    (written : s.write addr bs = .ok t) : s.Alike t := by
  obtain ⟨i, page, located, rfl⟩ := read_eq_ok_iff.mp got
  obtain ⟨index, found, _⟩ := locate_eq_ok_iff.mp located
  have change := alikeBut_write written
  refine ⟨change.config, change.reserved, change.cursors, fun j k _ => ?_⟩
  by_cases spans : addr.Spans (page.bytes.read addr.offset.toNat len).length j k
  · rw [(cell?_write written j k).1 spans]
    obtain ⟨on, start, stop⟩ := spans
    obtain rfl := Option.some.inj (index.symm.trans on)
    rw [SparseBytes.length_read] at stop
    have here : addr.offset.toNat + (k - addr.offset.toNat) = k := by omega
    have bound : k - addr.offset.toNat < len := by omega
    simp [cell?, found, SparseBytes.read_eq_map, here, bound]
  · exact change.bytes j k spans

section

variable {α : Type} [FixedWidth α]

theorem store_iff_load (s : PageStore) (addr : Addr) (v : α) :
    (∃ t, s.store addr v = .ok t) ↔ ∃ w, s.load α addr = .ok w := by
  by_cases covers : s.Covers addr (FixedWidth.width α)
  · obtain ⟨page, found, inside⟩ := covers
    have covers : s.Covers addr (FixedWidth.width α) := ⟨page, found, inside⟩
    exact iff_of_true (covers.store v) ⟨_, covers.load found⟩
  · simp only [store_of_not_covers covers, load_of_not_covers covers, reduceCtorEq, exists_false]

theorem store_error {v : α} {e : MemoryError} (failed : s.store addr v = .error e) :
    e = .invalidAddress addr := by
  by_cases covers : s.Covers addr (FixedWidth.width α)
  · obtain ⟨t, stored⟩ := covers.store v
    exact nomatch failed.symm.trans stored
  · exact (Except.error.inj ((store_of_not_covers covers v).symm.trans failed)).symm

theorem alike_store_load {v : α} (got : s.load α addr = .ok v) (stored : s.store addr v = .ok t) :
    s.Alike t := by
  obtain ⟨bytes, read, rfl⟩ : ∃ bytes, s.read addr (FixedWidth.width α) = .ok bytes ∧
      FixedWidth.decode bytes = v := by
    cases read : s.read addr (FixedWidth.width α) with
    | error e => simp [PageStore.load, read, Except.map] at got
    | ok bytes => exact ⟨bytes, rfl, by simpa [PageStore.load, read, Except.map] using got⟩
  obtain ⟨_, page, _, same⟩ := read_eq_ok_iff.mp read
  have length : bytes.length = FixedWidth.width α := by rw [← same, SparseBytes.length_read]
  rw [PageStore.store, FixedWidth.encode_decode length] at stored
  exact alike_write_read read stored

theorem lens {width : Nat} {number : α → Nat}
    (encodes : ∀ v, FixedWidth.encode v = LittleEndian.toBytes width (number v))
    (s : PageStore) (addr : Addr) : s.Lens α width number addr where
  writes v := store_iff_load s addr v
  loads v t stored := load_of_store stored
  bytes v t stored := by
    rw [PageStore.store, encodes] at stored
    simpa using read_of_write stored
  elsewhere v t stored := by
    rw [PageStore.store, encodes] at stored
    simpa using alikeBut_write stored
  same v t got stored := alike_store_load got stored
  refused v e t failed := by
    cases stored : s.store addr v with
    | ok u => simp [Step.update, stored] at failed
    | error e' =>
      simp only [Step.update, stored, Prod.mk.injEq, Except.error.injEq] at failed
      obtain ⟨rfl, rfl⟩ := failed
      exact ⟨store_error stored, rfl⟩

end

/-- The bytes of a field lie in the value that it is a field of, behind as many bytes as it is away
from the tag. -/
theorem spans_field {f : Field} {x : Addr} {m n i k : Nat} (made : f.of addr = .ok x)
    (inside : f.distance.toNat + m ≤ n) (spans : x.Spans m i k) :
    addr.Spans n i k ∧ addr.offset.toNat + f.distance.toNat ≤ k := by
  obtain ⟨page, on, on_x, offset⟩ := Addr.add?_eq_some_iff.mp (field_eq_ok_iff.mp made)
  obtain ⟨index, start, stop⟩ := spans
  rw [on_x, ← on] at index
  exact ⟨⟨index, by omega, by omega⟩, by omega⟩

section

variable {text : String} {x y : Addr}

/-- There is room for both writes that store a text, the count of its bytes and then the bytes. -/
theorem storeText_writes (bounded : s.Bounded)
    (covers : s.Covers addr (1 + 4 + text.utf8ByteSize)) : text.utf8ByteSize ≤ 0xFFFFFFFF ∧
    ∃ x y t u, Field.stringLength.of addr = .ok x ∧ Field.stringBytes.of addr = .ok y ∧
      s.store x (UInt32.ofNat text.utf8ByteSize) = .ok t ∧ t.write y (Utf8.encode text) = .ok u ∧
      s.storeText addr text = (.ok (), u) := by
  have size := Utf8.length_encode text
  have fits : text.utf8ByteSize ≤ 0xFFFFFFFF := by
    obtain ⟨page, found, inside⟩ := covers
    have := used_le bounded found
    omega
  have one : Field.stringLength.distance.toNat = 1 := rfl
  have five : Field.stringBytes.distance.toNat = 5 := rfl
  obtain ⟨x, made_x, _, _, covers_x⟩ :=
    covers.field bounded (f := .stringLength) (n := 4) (by omega)
  obtain ⟨y, made_y, _, _, covers_y⟩ :=
    covers.field bounded (f := .stringBytes) (n := (Utf8.encode text).length) (by omega)
  obtain ⟨t, stored⟩ := covers_x.store (UInt32.ofNat text.utf8ByteSize)
  obtain ⟨u, written⟩ := ((alikeBut_write stored).covers covers_y).write
  refine ⟨fits, x, y, t, u, made_x, made_y, stored, written, ?_⟩
  simp only [storeText, size, fits, ↓reduceIte, storeField, made_x, made_y, bind, Except.bind,
    stored, written]

theorem hasText_of_writes (fits : text.utf8ByteSize ≤ 0xFFFFFFFF)
    (made_x : Field.stringLength.of addr = .ok x) (made_y : Field.stringBytes.of addr = .ok y)
    (stored : s.store x (UInt32.ofNat text.utf8ByteSize) = .ok t)
    (written : t.write y (Utf8.encode text) = .ok u) : s.HasText addr text u := by
  have size := Utf8.length_encode text
  have first := alikeBut_write stored
  have second := alikeBut_write written
  rw [FixedWidth.length_encode] at first
  rw [size] at second
  have one : Field.stringLength.distance.toNat = 1 := rfl
  have five : Field.stringBytes.distance.toNat = 5 := rfl
  have width : FixedWidth.width UInt32 = 4 := rfl
  have all : s.AlikeBut u fun i k =>
      addr.Spans (1 + 4 + text.utf8ByteSize) i k ∧ k ≠ addr.offset.toNat := by
    refine first.trans second ?_ ?_
    · intro i k spans
      have within : Field.stringLength.distance.toNat + 4 ≤ 1 + 4 + text.utf8ByteSize := by omega
      obtain ⟨whole, behind⟩ := spans_field made_x within spans
      exact ⟨whole, by omega⟩
    · intro i k spans
      have within : Field.stringBytes.distance.toNat + text.utf8ByteSize ≤
          1 + 4 + text.utf8ByteSize := by omega
      obtain ⟨whole, behind⟩ := spans_field made_y within spans
      exact ⟨whole, by omega⟩
  refine ⟨?_, all, ?_, ?_⟩
  · refine all.load fun i k spans changed => ?_
    obtain ⟨_, start, stop⟩ := spans
    have : FixedWidth.width UInt8 = 1 := rfl
    omega
  · -- the bytes of the text lie behind the count of them
    have apart : ∀ i k, x.Spans 4 i k → ¬ y.Spans text.utf8ByteSize i k := by
      intro i k spans other
      obtain ⟨⟨_, _, stop⟩, _⟩ := spans_field made_x (n := 5) (by omega) spans
      obtain ⟨_, start⟩ := spans_field made_y (Nat.le_refl _) other
      omega
    have count := (second.load apart).trans (load_of_store stored)
    refine ⟨UInt32.ofNat text.utf8ByteSize, ?_, ?_⟩
    · simp only [loadField, made_x, bind, Except.bind, count]
    · rw [UInt32.toNat_ofNat', Nat.mod_eq_of_lt (by omega)]
  · have read := read_of_write written
    rw [size] at read
    exact ⟨y, _, made_y, read, Utf8.toByteArray_encode text⟩

end

/-- What reads and writes at an address do, for every type that is stored and for texts. -/
structure Codec (s : PageStore) (addr : Addr) : Prop where
  byte : s.Lens UInt8 1 UInt8.toNat addr
  word : s.Lens UInt32 4 UInt32.toNat addr
  integer : s.Lens Int32 4 (·.toUInt32.toNat) addr
  long : s.Lens Int64 8 (·.toUInt64.toNat) addr
  float : s.Lens Binary32 4 (·.bits.toNat) addr
  double : s.Lens Binary64 8 (·.bits.toNat) addr
  address : s.Lens Addr 8 (·.raw.toNat) addr
  text : ∀ text, s.Covers addr (1 + 4 + text.utf8ByteSize) →
    ∃ t, s.storeText addr text = (.ok (), t) ∧ s.HasText addr text t

theorem Bounded.codec (bounded : s.Bounded) (addr : Addr) : s.Codec addr where
  byte := lens (fun _ => rfl) s addr
  word := lens (fun _ => rfl) s addr
  integer := lens (fun _ => rfl) s addr
  long := lens (fun _ => rfl) s addr
  float := lens (fun _ => rfl) s addr
  double := lens (fun _ => rfl) s addr
  address := lens (fun _ => rfl) s addr
  text text covers := by
    obtain ⟨fits, x, y, t, u, made_x, made_y, stored, written, done⟩ :=
      storeText_writes bounded covers
    exact ⟨u, done, hasText_of_writes fits made_x made_y stored written⟩

theorem codec_callAll (config : Config) (calls : List Call) (addr : Addr) :
    (callAll calls (.empty config)).2.Codec addr := (bounded_callAll config calls).codec addr

/-- A page with sixteen bytes given out, none of them zero. -/
def textSample : PageStore :=
  (callAll [.reserve 16, .write ⟨0x100000000⟩ (List.replicate 16 0xFF)] (.empty ⟨64, none⟩)).2

/-- A text of three bytes is written with its count between the others, which stay. -/
theorem codec_callAll_textSample : textSample.Covers ⟨0x100000002⟩ (1 + 4 + "aü".utf8ByteSize) ∧
    ∃ t, textSample.storeText ⟨0x100000002⟩ "aü" = (.ok (), t) ∧
      textSample.HasText ⟨0x100000002⟩ "aü" t ∧ t.read ⟨0x100000000⟩ 16 =
        .ok [0xFF, 0xFF, 0xFF, 3, 0, 0, 0, 0x61, 0xC3, 0xBC, 0xFF, 0xFF, 0xFF, 0xFF, 0xFF, 0xFF] := by
  have covers : textSample.Covers ⟨0x100000002⟩ (1 + 4 + "aü".utf8ByteSize) :=
    ⟨_, rfl, by decide⟩
  have codec : textSample.Codec ⟨0x100000002⟩ := codec_callAll ⟨64, none⟩ _ _
  obtain ⟨t, stored, written⟩ := codec.text "aü" covers
  have read : (textSample.storeText ⟨0x100000002⟩ "aü").2.read ⟨0x100000000⟩ 16 =
      .ok [0xFF, 0xFF, 0xFF, 3, 0, 0, 0, 0x61, 0xC3, 0xBC, 0xFF, 0xFF, 0xFF, 0xFF, 0xFF, 0xFF] := by
    rfl
  rw [stored] at read
  exact ⟨covers, t, stored, written, read⟩

end ValueArena.PageStore
