import ValueArena.Arena.Writing
import ValueArena.Proofs.Heap.Creation
import ValueArena.Proofs.Heap.Growth
import ValueArena.Proofs.Heap.Recognition

/-!
The reach of a handle. Once a value has been recognised in memory, whatever its bytes, no read of it
and no number written over it misses memory, then or later.
-/
namespace ValueArena

/-- Whatever it is, it is not a failure to find memory. -/
def InMemory (result : Except MemoryError α) : Prop := ∀ x, result ≠ .error (.invalidAddress x)

/-- Reads of the handle, and numbers written over it, stay in memory. -/
structure Arena.Reaches (a : Arena) (h : Handle) : Prop where
  readInteger : InMemory (a.readInteger h)
  readLong : InMemory (a.readLong h)
  readDouble : InMemory (a.readDouble h)
  readString : InMemory (a.readString h)
  hasBytes : ∀ bytes, InMemory (a.hasBytes h bytes)
  readFunction : InMemory (a.readFunction h)
  readNativeIndex : InMemory (a.readNativeIndex h)
  setInteger : ∀ v, InMemory (setInteger h v a).1
  setLong : ∀ v, InMemory (setLong h v a).1
  setDouble : ∀ v, InMemory (setDouble h v a).1

theorem inMemory_ok (v : α) : InMemory (.ok v : Except MemoryError α) := nofun

/-- Handles of other kinds are refused before memory is looked at. -/
theorem inMemory_mismatch (expected found : Kind) :
    InMemory (.error (.kindMismatch expected found) : Except MemoryError α) := by
  intro x same
  cases same

theorem inMemory_unsupported (kind : Kind) :
    InMemory (.error (.unsupportedSourceType kind) : Except MemoryError α) := by
  intro x same
  cases same

theorem InMemory.bind {result : Except MemoryError α} {f : α → Except MemoryError β}
    (first : InMemory result) (next : ∀ v, result = .ok v → InMemory (f v)) :
    InMemory (result >>= f) := by
  cases result with
  | ok v => exact next v rfl
  | error e => exact fun x same => first x (congrArg Except.error (Except.error.inj same))

/-- A result that is only converted. -/
theorem InMemory.convert {result : Except MemoryError α} (given : InMemory result) (f : α → β) :
    InMemory (result >>= fun v => pure (f v)) := given.bind fun v _ => inMemory_ok (f v)

namespace Arena

/-- The handle's whole value lies on one page, and is as long as its kind asks for. -/
structure Spans (a : Arena) (d : Descriptor) : Prop where
  bounded : a.store.Bounded
  stored : d.addr ≠ .null
  covers : a.store.Covers d.addr (1 + d.size.toNat)
  sized : d.kind.fixedSize.toNat ≤ d.size.toNat

variable {a : Arena} {d : Descriptor}

theorem Spans.storedValue (spans : a.Spans d) : storedValue (.stored d) = .ok d := by
  simp [Arena.storedValue, Handle.descriptor?, Addr.isNull_eq_false spans.stored]

/-- The payload starts right behind the tag. -/
theorem Spans.payload (spans : a.Spans d) {n : Nat} (narrow : n ≤ d.size.toNat) :
    a.store.Covers d.payload n ∧ d.payload.page? = d.addr.page? ∧
      d.payload.offset.toNat = d.addr.offset.toNat + 1 := by
  have one : Field.payload.distance.toNat = 1 := rfl
  obtain ⟨x, made, same, offset, covers⟩ :=
    spans.covers.field spans.bounded (f := .payload) (n := n) (by omega)
  have payload : d.payload = x := Field.payload_of made
  rw [payload]
  exact ⟨covers, same, offset⟩

theorem Spans.load (spans : a.Spans d) (α : Type) [FixedWidth α]
    (narrow : FixedWidth.width α ≤ d.kind.fixedSize.toNat) : InMemory (a.load α d.payload) := by
  obtain ⟨covers, _⟩ := spans.payload (Nat.le_trans narrow spans.sized)
  obtain ⟨page, found, inside⟩ := covers
  have loaded : a.load α d.payload = _ := PageStore.Covers.load ⟨page, found, inside⟩ found
  rw [loaded]
  exact inMemory_ok _

theorem Spans.loadField (spans : a.Spans d) (α : Type) [FixedWidth α] {f : Field}
    (narrow : f.distance.toNat + FixedWidth.width α ≤ 1 + d.kind.fixedSize.toNat) :
    InMemory (a.loadField α d.addr f) := by
  have sized := spans.sized
  obtain ⟨x, made, _, _, covers⟩ :=
    spans.covers.field spans.bounded (f := f) (n := FixedWidth.width α) (by omega)
  obtain ⟨page, found, inside⟩ := covers
  have loaded : a.store.load α x = _ := PageStore.Covers.load ⟨page, found, inside⟩ found
  simp only [Arena.loadField, PageStore.loadField, made, bind, Except.bind, loaded]
  exact inMemory_ok _

theorem Spans.readLong (spans : a.Spans d) : InMemory (a.readLong (.stored d)) := by
  simp only [Arena.readLong, spans.storedValue, bind, Except.bind]
  split
  case h_1 kind => exact (spans.load UInt8 (by rw [kind]; decide)).convert _
  case h_2 kind => exact (spans.load Int32 (by rw [kind]; decide)).convert _
  case h_3 kind => exact spans.load Int64 (by rw [kind]; decide)
  case h_4 kind => exact (spans.load Binary32 (by rw [kind]; decide)).convert _
  case h_5 kind => exact (spans.load Binary64 (by rw [kind]; decide)).convert _
  case h_6 => exact inMemory_unsupported _

theorem Spans.readDouble (spans : a.Spans d) : InMemory (a.readDouble (.stored d)) := by
  simp only [Arena.readDouble, spans.storedValue, bind, Except.bind]
  split
  case h_1 kind => exact (spans.load UInt8 (by rw [kind]; decide)).convert _
  case h_2 kind => exact (spans.load Int32 (by rw [kind]; decide)).convert _
  case h_3 kind => exact (spans.load Int64 (by rw [kind]; decide)).convert _
  case h_4 kind => exact (spans.load Binary32 (by rw [kind]; decide)).convert _
  case h_5 kind => exact spans.load Binary64 (by rw [kind]; decide)
  case h_6 => exact inMemory_unsupported _

theorem Spans.readInteger (spans : a.Spans d) : InMemory (a.readInteger (.stored d)) := by
  unfold Arena.readInteger
  split
  case h_1 kind =>
    have kind : d.kind = .integer := kind
    rw [spans.storedValue]
    exact spans.load Int32 (by rw [kind]; decide)
  case h_2 => exact spans.readDouble.convert _
  case h_3 => exact spans.readDouble.convert _
  case h_4 => exact spans.readLong.convert _

/-- The bytes of a text lie behind its count of bytes. -/
theorem Spans.loadBytes (spans : a.Spans d) (string : d.kind = .string) :
    InMemory (a.store.loadBytes d) := by
  have sized : 4 ≤ d.size.toNat := by
    have sized := spans.sized
    rw [string] at sized
    exact sized
  have five : Field.stringBytes.distance.toNat = 5 := rfl
  obtain ⟨x, made, _, _, covers⟩ :=
    spans.covers.field spans.bounded (f := .stringBytes) (n := d.size.toNat - 4) (by omega)
  obtain ⟨page, found, inside⟩ := covers
  have read := PageStore.Covers.read ⟨page, found, inside⟩ found
  simp only [PageStore.loadBytes, made, bind, Except.bind, read]
  exact inMemory_ok _

theorem Spans.readString (spans : a.Spans d) : InMemory (a.readString (.stored d)) := by
  unfold Arena.readString
  split
  case h_1 kind =>
    rw [spans.storedValue]
    exact (spans.loadBytes kind).convert _
  case h_2 kind =>
    have kind : d.kind = .float := kind
    rw [spans.storedValue]
    exact (spans.load Binary32 (by rw [kind]; decide)).convert _
  case h_3 => exact spans.readDouble.convert _
  case h_4 => exact spans.readLong.convert _
  case h_5 => exact spans.readLong.convert _
  case h_6 => exact spans.readLong.convert _
  case h_7 => exact spans.readLong.convert _
  case h_8 => exact inMemory_unsupported _

theorem Spans.descriptor? (spans : a.Spans d) : (Handle.stored d).descriptor? = some d := by
  simp [Handle.descriptor?, Addr.isNull_eq_false spans.stored]

theorem Spans.hasBytes (spans : a.Spans d) (bytes : List UInt8) :
    InMemory (a.hasBytes (.stored d) bytes) := by
  simp only [Arena.hasBytes, spans.descriptor?]
  split
  case isTrue string => exact (spans.loadBytes string).convert _
  case isFalse => exact inMemory_ok false

theorem Spans.readFunction (spans : a.Spans d) : InMemory (a.readFunction (.stored d)) := by
  simp only [Arena.readFunction, Handle.require, spans.descriptor?]
  split
  case isFalse => exact inMemory_mismatch _ _
  case isTrue function =>
    refine InMemory.bind (inMemory_ok _) fun d' same => ?_
    cases same
    refine (spans.loadField UInt32 (by rw [function]; decide)).bind fun library _ => ?_
    exact (spans.loadField UInt32 (by rw [function]; decide)).convert _

theorem Spans.readNativeIndex (spans : a.Spans d) : InMemory (a.readNativeIndex (.stored d)) := by
  simp only [Arena.readNativeIndex, spans.descriptor?]
  split
  case h_1 kind => exact spans.load UInt32 (by rw [kind]; decide)
  case h_2 kind => exact spans.load UInt32 (by rw [kind]; decide)
  case h_3 => exact inMemory_mismatch _ _

theorem Spans.setPayload (spans : a.Spans d) [FixedWidth α] (kind : Kind) (v : α)
    (narrow : FixedWidth.width α ≤ kind.fixedSize.toNat) :
    InMemory (setPayload kind (.stored d) v a).1 := by
  by_cases same : d.kind = kind
  · subst same
    obtain ⟨covers, _⟩ := spans.payload (Nat.le_trans narrow spans.sized)
    obtain ⟨t, stored⟩ := covers.store v
    have required := Handle.require_stored spans.stored
    have wrote := write_apply (a := a) stored
    simp only [Arena.setPayload, Step.view_bind, required, wrote]
    exact inMemory_ok ()
  · have refused : (Handle.stored d).require kind = .error (.kindMismatch kind d.kind) := by
      simp only [Handle.require, spans.descriptor?, same]
      rfl
    simp only [Arena.setPayload, Step.view_bind, refused]
    exact inMemory_mismatch _ _

theorem Spans.reaches (spans : a.Spans d) : a.Reaches (.stored d) where
  readInteger := spans.readInteger
  readLong := spans.readLong
  readDouble := spans.readDouble
  readString := spans.readString
  hasBytes := spans.hasBytes
  readFunction := spans.readFunction
  readNativeIndex := spans.readNativeIndex
  setInteger := fun v => spans.setPayload .integer v (by decide)
  setLong := fun v => spans.setPayload .long v (by decide)
  setDouble := fun v => spans.setPayload .double v (by decide)

/-- A value found in memory stays within reach whatever is done to the memory afterwards. -/
theorem spans_of_value (bounded : a.store.Bounded) {addr : Addr} (some_addr : addr ≠ .null)
    {page : Page} {kind : Kind} {size : UInt32} (found : a.store.pageOf? addr = some page)
    (value : page.HasValue addr.offset.toNat kind size) (later : List PageStore.Call)
    (generation : UInt64) :
    Spans ⟨(PageStore.callAll later a.store).2, generation⟩ ⟨kind, size, addr⟩ where
  bounded := (PageStore.Tracks.callAll ⟨bounded, by simp, .nil⟩ later).1.bounded
  stored := some_addr
  covers := PageStore.Covers.callAll bounded ⟨page, found, value.inside⟩ later
  sized := by
    by_cases string : kind = .string
    · have sized := (value.text string).2
      subst string
      simp only [sized]
      exact Nat.le_add_left _ _
    · exact Nat.le_of_eq (congrArg UInt32.toNat (value.fixed string).symm)

end Arena

/-- Memory is given out and written over in any way at all. Whatever bytes that leaves, an address
decodes to exactly the value whose tag and bytes lie there, and that value never misses memory. -/
theorem Arena.decode_after_callAll (config : Config) (calls : List PageStore.Call)
    (generation : UInt64) (addr : Addr) :
    let a : Arena := ⟨(PageStore.callAll calls (.empty config)).2, generation⟩
    a.decode .null = .ok .none ∧ (addr ≠ .null → a.Recognises addr) ∧
      ∀ d, addr ≠ .null → a.decode addr = .ok (.stored d) →
        d.payload.raw.toNat = addr.raw.toNat + 1 ∧
        ∀ later generation',
          Arena.Reaches ⟨(PageStore.callAll later a.store).2, generation'⟩ (.stored d) := by
  intro a
  have bounded : a.store.Bounded := PageStore.bounded_callAll config calls
  refine ⟨rfl, recognises_of_bounded bounded, ?_⟩
  intro d some_addr decoded
  obtain ⟨page, kind, size, found, value, same⟩ :=
    ((recognises_of_bounded bounded some_addr).value _).mp decoded
  obtain rfl := Handle.stored.inj same
  have spans := spans_of_value bounded some_addr found value
  refine ⟨?_, fun later generation' => (spans later generation').reaches⟩
  obtain ⟨-, same_page, offset⟩ := (spans [] generation).payload (Nat.zero_le _)
  obtain ⟨i, index, -⟩ := PageStore.pageOf?_eq_some_iff.mp found
  rw [PageStore.toNat_raw (same_page ▸ index), PageStore.toNat_raw index, offset, Nat.add_assoc]

/-- A string that says it is longer than its page, in which an integer stands by accident. -/
def straySample : Arena :=
  ⟨(PageStore.callAll [.reserve 9, .write ⟨0x100000000⟩ [6, 2, 7, 0, 0, 0]]
    (.empty ⟨16, none⟩)).2, 0⟩

example : straySample.decode ⟨0x100000000⟩ = .error (.invalidAddress ⟨0x100000000⟩) ∧
    straySample.decode ⟨0x100000001⟩ = .ok (.stored ⟨.integer, 4, ⟨0x100000001⟩⟩) := by
  constructor <;> rfl

end ValueArena
