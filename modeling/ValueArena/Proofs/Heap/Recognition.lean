import ValueArena.Proofs.Heap.Reading
import ValueArena.Proofs.Memory.Extent

/-!
Recognising values among bytes of any kind. A value is found at an address exactly if a known tag
stands there and the whole value lies below the cursor of its page.
-/
namespace ValueArena

/-- The count of bytes that stands behind the tag of a string. -/
def Page.textLength (p : Page) (start : Nat) : Nat :=
  LittleEndian.ofBytes (p.bytes.read (start + 1) 4)

/-- A value of this kind starts at the offset and ends below the cursor. The size of a string, which
takes in its count of bytes, fits 32 bits. -/
structure Page.HasValue (p : Page) (start : Nat) (kind : Kind) (size : UInt32) : Prop where
  tag : p.contents[start]? = some kind.tag
  stored : kind ≠ .value
  text : kind = .string → start + 5 ≤ p.used ∧ size.toNat = p.textLength start + 4
  fixed : kind ≠ .string → size = kind.fixedSize
  inside : start + (1 + size.toNat) ≤ p.used

/-- Nothing that is stored has this tag. -/
def UnknownTag (tag : UInt8) : Prop := ∀ kind : Kind, kind.tag = tag → kind = .value

namespace Arena

/-- Decoding the address finds the value there, or says why there is none. -/
structure Recognises (a : Arena) (addr : Addr) : Prop where
  value : ∀ h, a.decode addr = .ok h ↔ ∃ page kind size, a.store.pageOf? addr = some page ∧
    page.HasValue addr.offset.toNat kind size ∧ h = .stored ⟨kind, size, addr⟩
  unknown : ∀ tag x, a.decode addr = .error (.unknownTag tag x) ↔ x = addr ∧
    ∃ page, a.store.pageOf? addr = some page ∧ page.contents[addr.offset.toNat]? = some tag ∧
      UnknownTag tag
  otherwise : ∀ e, a.decode addr = .error e →
    (∃ tag, e = .unknownTag tag addr) ∨ ∃ x, e = .invalidAddress x

end Arena

theorem Page.contents_getElem? (p : Page) (k : Nat) :
    p.contents[k]? = if k < p.used then some (p.bytes.get k) else none := by
  by_cases inside : k < p.used <;> simp [contents, SparseBytes.read_eq_map, inside]

namespace PageStore

variable {s : PageStore} {addr : Addr} {page : Page} {kind : Kind}

theorem load_tag_iff {tag : UInt8} : s.load UInt8 addr = .ok tag ↔
    ∃ page, s.pageOf? addr = some page ∧ page.contents[addr.offset.toNat]? = some tag := by
  by_cases covers : s.Covers addr 1
  · obtain ⟨page, found, inside⟩ := covers
    have loaded : s.load UInt8 addr = _ := Covers.load ⟨page, found, inside⟩ found
    have byte : (FixedWidth.decode (page.bytes.read addr.offset.toNat 1) : UInt8) =
        page.bytes.get addr.offset.toNat := by
      simp [SparseBytes.read_eq_map, FixedWidth.decode, LittleEndian.ofBytes]
    rw [loaded]
    simp only [found, Option.some.injEq, Page.contents_getElem?, exists_eq_left', Except.ok.injEq]
    rw [if_pos (by omega)]
    exact ⟨fun eq => by rw [← eq]; exact congrArg some byte.symm,
      fun eq => byte.trans (Option.some.inj eq)⟩
  · have missed : s.load UInt8 addr = _ := load_of_not_covers covers
    rw [missed]
    constructor
    · intro loaded
      cases loaded
    · intro given
      obtain ⟨page, found, at_tag⟩ := given
      have inside := (List.getElem?_eq_some_iff.mp at_tag).1
      rw [Page.length_contents] at inside
      exact absurd ⟨page, found, inside⟩ covers

theorem load_error {α : Type} [FixedWidth α] {e : MemoryError}
    (failed : s.load α addr = .error e) : e = .invalidAddress addr := by
  by_cases covers : s.Covers addr (FixedWidth.width α)
  · obtain ⟨page, found, inside⟩ := covers
    rw [Covers.load ⟨page, found, inside⟩ found] at failed
    cases failed
  · rw [load_of_not_covers covers] at failed
    exact (Except.error.inj failed).symm

theorem toNat_decode_word {bs : List UInt8} (length : bs.length = 4) :
    (FixedWidth.decode bs : UInt32).toNat = LittleEndian.ofBytes bs := by
  have bound := LittleEndian.ofBytes_lt bs
  rw [length] at bound
  exact Nat.mod_eq_of_lt bound

/-- The count of bytes is read exactly if it lies below the cursor. -/
theorem load_textLength (bounded : s.Bounded) (found : s.pageOf? addr = some page) :
    (addr.offset.toNat + 5 ≤ page.used ∧ ∃ length,
      s.loadField UInt32 addr .stringLength = .ok length ∧
        length.toNat = page.textLength addr.offset.toNat) ∨
    ¬ addr.offset.toNat + 5 ≤ page.used ∧ ∃ x,
      s.loadField UInt32 addr .stringLength = .error (.invalidAddress x) := by
  by_cases inside : addr.offset.toNat + 5 ≤ page.used
  · have covers : s.Covers addr 5 := ⟨page, found, inside⟩
    obtain ⟨x, made, same, offset, covers_x⟩ :=
      covers.field bounded (f := .stringLength) (n := 4) (by decide)
    have found_x : s.pageOf? x = some page := by
      rw [pageOf?, same]
      exact found
    have loaded : s.load UInt32 x = _ := covers_x.load found_x
    refine .inl ⟨inside, _, by simp only [loadField, made, bind, Except.bind, loaded]; rfl, ?_⟩
    have number := toNat_decode_word (SparseBytes.length_read page.bytes x.offset.toNat 4)
    refine number.trans ?_
    rw [offset]
    rfl
  · refine .inr ⟨inside, ?_⟩
    cases made : Field.stringLength.of addr with
    | error e =>
      refine ⟨addr, ?_⟩
      rw [field_error made] at made
      simp only [loadField, made, bind, Except.bind]
    | ok x =>
      have outside : ¬ s.Covers x (FixedWidth.width UInt32) := by
        intro covers_x
        obtain ⟨same, found', inside'⟩ := covers_of_field made covers_x
        obtain rfl : page = same := Option.some.inj (found.symm.trans found')
        exact inside inside'
      refine ⟨x, ?_⟩
      simp only [loadField, made, bind, Except.bind]
      exact load_of_not_covers outside

theorem payloadSize_iff (bounded : s.Bounded) (found : s.pageOf? addr = some page) {size : UInt32} :
    s.payloadSize kind addr = .ok size ↔
      (kind = .string → addr.offset.toNat + 5 ≤ page.used ∧
        size.toNat = page.textLength addr.offset.toNat + 4) ∧
      (kind ≠ .string → size = kind.fixedSize) := by
  by_cases string : kind = .string
  · subst string
    simp only [payloadSize, forall_const, ne_eq, not_true_eq_false, false_implies, and_true]
    rcases load_textLength bounded found with ⟨inside, length, loaded, same⟩ | ⟨outside, x, failed⟩
    · simp only [loaded, bind, Except.bind, inside, true_and, ← same]
      split
      case isTrue fits =>
        have total : (length + 4).toNat = length.toNat + 4 := by
          rw [UInt32.toNat_add]
          exact Nat.mod_eq_of_lt (by simp only [UInt32.reduceToNat]; omega)
        rw [Except.ok.injEq, ← UInt32.toNat_inj, total, eq_comm]
      case isFalse large =>
        have := size.toNat_lt
        simp only [reduceCtorEq, false_iff]
        omega
    · simp only [failed, bind, Except.bind, outside, false_and, reduceCtorEq]
  · have fixed : s.payloadSize kind addr = .ok kind.fixedSize := by
      unfold payloadSize
      split
      case h_1 => exact absurd rfl string
      case h_2 => rfl
    simp [fixed, string, eq_comm]

theorem payloadSize_error (bounded : s.Bounded) (found : s.pageOf? addr = some page)
    {e : MemoryError} (failed : s.payloadSize kind addr = .error e) :
    ∃ x, e = .invalidAddress x := by
  unfold payloadSize at failed
  split at failed
  case h_2 => cases failed
  case h_1 =>
    rcases load_textLength bounded found with ⟨_, length, loaded, _⟩ | ⟨_, x, missed⟩
    · simp only [loaded, bind, Except.bind] at failed
      split at failed
      · cases failed
      · exact ⟨addr, (Except.error.inj failed).symm⟩
    · simp only [missed, bind, Except.bind] at failed
      exact ⟨x, (Except.error.inj failed).symm⟩

theorem decode_of_unknown {tag : UInt8} (loaded : s.load UInt8 addr = .ok tag)
    (unknown : UnknownTag tag) : s.decode addr = .error (.unknownTag tag addr) := by
  cases named : Kind.ofTag? tag with
  | none => simp only [decode, loaded, named, bind, Except.bind]
  | some kind =>
    obtain rfl := unknown kind (Kind.ofTag?_eq_some_iff.mp named)
    simp only [decode, loaded, named, bind, Except.bind]

theorem decode_of_value (bounded : s.Bounded) (found : s.pageOf? addr = some page) {size : UInt32}
    (value : page.HasValue addr.offset.toNat kind size) :
    s.decode addr = .ok ⟨kind, size, addr⟩ := by
  have covers : s.Covers addr (1 + size.toNat) := ⟨page, found, value.inside⟩
  obtain ⟨place, located⟩ := covers.locate
  have sized := (payloadSize_iff bounded found).mpr ⟨value.text, value.fixed⟩
  rw [decode_of_tag (load_tag_iff.mpr ⟨page, found, value.tag⟩) value.stored, sized]
  simp only [Except.bind, located]

/-- A known tag is that of a whole value, or some of its memory is missing. -/
theorem decode_of_known (bounded : s.Bounded) (found : s.pageOf? addr = some page)
    (tag : page.contents[addr.offset.toNat]? = some kind.tag) (stored : kind ≠ .value) :
    (∃ size, page.HasValue addr.offset.toNat kind size) ∨
      ∃ x, s.decode addr = .error (.invalidAddress x) := by
  have decoded := decode_of_tag (load_tag_iff.mpr ⟨page, found, tag⟩) stored
  cases sized : s.payloadSize kind addr with
  | error e =>
    obtain ⟨x, rfl⟩ := payloadSize_error bounded found sized
    rw [sized] at decoded
    exact .inr ⟨x, decoded⟩
  | ok size =>
    obtain ⟨text, fixed⟩ := (payloadSize_iff bounded found).mp sized
    by_cases covers : s.Covers addr (1 + size.toNat)
    · obtain ⟨same, found', inside⟩ := covers
      obtain rfl : page = same := Option.some.inj (found.symm.trans found')
      exact .inl ⟨size, tag, stored, text, fixed, inside⟩
    · refine .inr ⟨addr, ?_⟩
      rw [decoded, sized]
      simp only [Except.bind, locate_of_not_covers covers]

theorem decode_cases (bounded : s.Bounded) (addr : Addr) :
    (∃ page kind size, s.pageOf? addr = some page ∧ page.HasValue addr.offset.toNat kind size ∧
      s.decode addr = .ok ⟨kind, size, addr⟩) ∨
    (∃ page tag, s.pageOf? addr = some page ∧ page.contents[addr.offset.toNat]? = some tag ∧
      UnknownTag tag ∧ s.decode addr = .error (.unknownTag tag addr)) ∨
    ∃ x, s.decode addr = .error (.invalidAddress x) := by
  cases loaded : s.load UInt8 addr with
  | error e =>
    refine .inr (.inr ⟨addr, ?_⟩)
    rw [← load_error loaded]
    simp only [decode, loaded, bind, Except.bind]
  | ok tag =>
    obtain ⟨page, found, at_tag⟩ := load_tag_iff.mp loaded
    by_cases unknown : UnknownTag tag
    · exact .inr (.inl ⟨page, tag, found, at_tag, unknown, decode_of_unknown loaded unknown⟩)
    · obtain ⟨kind, same, stored⟩ : ∃ kind : Kind, kind.tag = tag ∧ kind ≠ .value := by
        simpa [UnknownTag] using unknown
      subst same
      rcases decode_of_known bounded found at_tag stored with ⟨size, value⟩ | missed
      · exact .inl ⟨page, kind, size, found, value, decode_of_value bounded found value⟩
      · exact .inr (.inr missed)

end PageStore

namespace Arena

variable {a : Arena} {addr : Addr}

theorem decode_stored (some_addr : addr ≠ .null) :
    a.decode addr = (a.store.decode addr).map .stored := by
  simp [decode, Addr.isNull_eq_false some_addr]

theorem decode_cases (bounded : a.store.Bounded) (some_addr : addr ≠ .null) :
    (∃ page kind size, a.store.pageOf? addr = some page ∧
      page.HasValue addr.offset.toNat kind size ∧
      a.decode addr = .ok (.stored ⟨kind, size, addr⟩)) ∨
    (∃ page tag, a.store.pageOf? addr = some page ∧ page.contents[addr.offset.toNat]? = some tag ∧
      UnknownTag tag ∧ a.decode addr = .error (.unknownTag tag addr)) ∨
    ∃ x, a.decode addr = .error (.invalidAddress x) := by
  rw [decode_stored some_addr]
  rcases PageStore.decode_cases bounded addr with ⟨page, kind, size, found, value, stored⟩ |
    ⟨page, tag, found, at_tag, unknown, failed⟩ | ⟨x, failed⟩
  · exact .inl ⟨page, kind, size, found, value, by rw [stored]; rfl⟩
  · exact .inr (.inl ⟨page, tag, found, at_tag, unknown, by rw [failed]; rfl⟩)
  · exact .inr (.inr ⟨x, by rw [failed]; rfl⟩)

theorem recognises_of_bounded (bounded : a.store.Bounded) (some_addr : addr ≠ .null) :
    a.Recognises addr := by
  have outcome := decode_cases bounded some_addr
  constructor
  case value =>
    intro h
    constructor
    · intro done
      rcases outcome with ⟨page, kind, size, found, value, stored⟩ | ⟨_, _, _, _, _, failed⟩ |
        ⟨_, failed⟩
      · exact ⟨page, kind, size, found, value, Except.ok.inj (done.symm.trans stored)⟩
      · cases failed.symm.trans done
      · cases failed.symm.trans done
    · intro given
      obtain ⟨page, kind, size, found, value, rfl⟩ := given
      rw [decode_stored some_addr, PageStore.decode_of_value bounded found value]
      rfl
  case unknown =>
    intro tag x
    constructor
    · intro refused
      rcases outcome with ⟨_, _, _, _, _, stored⟩ | ⟨page, other, found, at_tag, unknown, failed⟩ |
        ⟨_, failed⟩
      · cases stored.symm.trans refused
      · cases failed.symm.trans refused
        exact ⟨rfl, page, found, at_tag, unknown⟩
      · cases failed.symm.trans refused
    · intro given
      obtain ⟨rfl, page, found, at_tag, unknown⟩ := given
      have loaded := PageStore.load_tag_iff.mpr ⟨page, found, at_tag⟩
      rw [decode_stored some_addr, PageStore.decode_of_unknown loaded unknown]
      rfl
  case otherwise =>
    intro e refused
    rcases outcome with ⟨_, _, _, _, _, stored⟩ | ⟨_, tag, _, _, _, failed⟩ | ⟨x, failed⟩
    · cases stored.symm.trans refused
    · exact .inl ⟨tag, Except.error.inj (refused.symm.trans failed)⟩
    · exact .inr ⟨x, Except.error.inj (refused.symm.trans failed)⟩

end Arena
end ValueArena
