import ValueArena.Proofs.Heap.Growth

/-!
What the typed reads of a handle answer, by what the cell holds that it names. No read depends on
where the cell lies.
-/
namespace ValueArena

namespace Cell

def long : Cell → Except MemoryError Int64
  | .plain (.byte v) => .ok v.toUInt64.toInt64
  | .plain (.integer v) => .ok v.toInt64
  | .plain (.long v) => .ok v
  | .plain (.float v) => .ok v.widen.toInt64
  | .plain (.double v) => .ok v.toInt64
  | c => .error (.unsupportedSourceType c.kind)

def double : Cell → Except MemoryError Binary64
  | .plain (.byte v) => .ok (.ofInt v.toNat)
  | .plain (.integer v) => .ok (.ofInt v.toInt)
  | .plain (.long v) => .ok (.ofInt v.toInt)
  | .plain (.float v) => .ok v.widen
  | .plain (.double v) => .ok v
  | c => .error (.unsupportedSourceType c.kind)

def integer : Cell → Except MemoryError Int32
  | .plain (.integer v) => .ok v
  | .plain (.float v) => .ok v.widen.toInt32
  | .plain (.double v) => .ok v.toInt32
  | c => c.long.map Int64.toInt32

def text : Cell → Except MemoryError String
  | .plain (.string v) => .ok v
  | .plain (.float v) => .ok v.text
  | .plain (.double v) => .ok v.text
  | c => c.long.map fun v => Int.repr v.toInt

def hasBytes (bytes : List UInt8) : Cell → Bool
  | .plain (.string v) => Utf8.encode v == bytes
  | _ => false

def function : Cell → Except MemoryError FunctionRef
  | .plain (.function v) => .ok v
  | c => .error (.kindMismatch .function c.kind)

def nativeIndex : Cell → Except MemoryError UInt32
  | .plain (.nativeObject v) => .ok v
  | .plain (.nativeFunction v) => .ok v
  | c => .error (.kindMismatch .nativeObject c.kind)

/-- Numbers are written out, and nothing else but strings has a text. -/
theorem text_iff {c : Cell} (other : c.kind ≠ .string) :
    (∃ s, c.text = .ok s) ↔ c.kind.isNumeric = true := by
  cases c with
  | plain content =>
    cases content with
    | string v => exact absurd rfl other
    | _ => simp [text, long, kind, Content.kind, Kind.isNumeric, Except.map]
  | list | item | object => simp [text, long, kind, Kind.isNumeric, Except.map]

theorem double_iff (c : Cell) : (∃ v, c.double = .ok v) ↔ c.kind.isNumeric = true := by
  cases c with
  | plain content => cases content <;> simp [double, kind, Content.kind, Kind.isNumeric]
  | list | item | object => simp [double, kind, Kind.isNumeric]

end Cell

namespace Arena

variable {a : Arena} {heap : Heap} {addr : Addr} {c : Cell} {size : UInt32}

theorem require_of_lies (lies : a.store.Lies addr c) (kind : Kind) :
    (Handle.stored ⟨c.kind, size, addr⟩).require kind =
      if c.kind = kind then .ok ⟨c.kind, size, addr⟩ else .error (.kindMismatch kind c.kind) := by
  rw [Handle.require, descriptor?_of_lies lies]
  rfl

/-- A number is loaded as the cell holds it. -/
theorem load_plain {content : Content} (lies : a.store.Lies addr (.plain content)) {α : Type}
    [FixedWidth α] {v : α} (payload : content.payload = FixedWidth.encode v)
    (wide : 0 < FixedWidth.width α) :
    a.load α (Descriptor.payload ⟨content.kind, size, addr⟩) = .ok v :=
  lies.load_payload payload wide

theorem readLong_of_lies (lies : a.store.Lies addr c) :
    a.readLong (.stored ⟨c.kind, size, addr⟩) = c.long := by
  simp only [readLong, storedValue_of_lies lies, bind, Except.bind]
  cases c with
  | plain content =>
    have loaded := @load_plain a addr size content lies
    cases content with
    | byte v | integer v | long v | float v | double v =>
      simp only [Cell.kind, Content.kind] at loaded ⊢
      rw [loaded rfl (by decide)]
      rfl
    | _ => rfl
  | list | item | object => rfl

theorem readDouble_of_lies (lies : a.store.Lies addr c) :
    a.readDouble (.stored ⟨c.kind, size, addr⟩) = c.double := by
  simp only [readDouble, storedValue_of_lies lies, bind, Except.bind]
  cases c with
  | plain content =>
    have loaded := @load_plain a addr size content lies
    cases content with
    | byte v | integer v | long v | float v | double v =>
      simp only [Cell.kind, Content.kind] at loaded ⊢
      rw [loaded rfl (by decide)]
      rfl
    | _ => rfl
  | list | item | object => rfl

theorem readInteger_of_lies (lies : a.store.Lies addr c) :
    a.readInteger (.stored ⟨c.kind, size, addr⟩) = c.integer := by
  have stored : storedValue (.stored ⟨c.kind, size, addr⟩) = .ok ⟨c.kind, size, addr⟩ :=
    storedValue_of_lies lies
  have long : a.readLong (.stored ⟨c.kind, size, addr⟩) = c.long := readLong_of_lies lies
  have double : a.readDouble (.stored ⟨c.kind, size, addr⟩) = c.double := readDouble_of_lies lies
  rw [readInteger, Handle.kind]
  cases c with
  | plain content =>
    have loaded := @load_plain a addr size content lies
    cases content with
    | integer v =>
      rw [stored]
      exact loaded rfl (by decide)
    | float v | double v =>
      simp only [Cell.kind, Content.kind] at double ⊢
      rw [double]
      rfl
    | _ =>
      simp only [Cell.kind, Content.kind] at long ⊢
      rw [long]
      rfl
  | list | item | object =>
    simp only [Cell.kind] at long ⊢
    rw [long]
    rfl

/-- A text is read to the end that the handle's size gives. -/
theorem readString_of_lies (lies : a.store.Lies addr c) :
    a.readString (.stored ⟨c.kind, c.size, addr⟩) = c.text := by
  have stored : storedValue (.stored ⟨c.kind, c.size, addr⟩) = .ok ⟨c.kind, c.size, addr⟩ :=
    storedValue_of_lies lies
  have long : a.readLong (.stored ⟨c.kind, c.size, addr⟩) = c.long := readLong_of_lies lies
  have double : a.readDouble (.stored ⟨c.kind, c.size, addr⟩) = c.double := readDouble_of_lies lies
  rw [readString, Handle.kind]
  cases c with
  | plain content =>
    have loaded := @load_plain a addr (Cell.plain content).size content lies
    cases content with
    | string v =>
      have bytes := lies.load_bytes
      simp only [Cell.kind, Content.kind] at stored ⊢
      simp only [stored, bytes, bind, Except.bind, Utf8.decode_encode]
      rfl
    | float v =>
      simp only [Cell.kind, Content.kind] at loaded stored ⊢
      simp only [stored, loaded rfl (by decide), bind, Except.bind]
      rfl
    | double v =>
      simp only [Cell.kind, Content.kind] at double ⊢
      rw [double]
      rfl
    | byte v | integer v | long v =>
      simp only [Cell.kind, Content.kind] at long ⊢
      rw [long]
      rfl
    | _ => rfl
  | list | item | object => rfl

theorem hasBytes_of_lies (lies : a.store.Lies addr c) (bytes : List UInt8) :
    a.hasBytes (.stored ⟨c.kind, c.size, addr⟩) bytes = .ok (c.hasBytes bytes) := by
  simp only [hasBytes, descriptor?_of_lies lies]
  cases c with
  | plain content =>
    cases content with
    | string v =>
      have loaded := lies.load_bytes
      simp only [Cell.kind, Content.kind, if_true, loaded]
      rfl
    | _ => rfl
  | list | item | object => rfl

theorem readFunction_of_lies (lies : a.store.Lies addr c) :
    a.readFunction (.stored ⟨c.kind, size, addr⟩) = c.function := by
  rw [readFunction, require_of_lies lies]
  cases c with
  | plain content =>
    cases content with
    | function v =>
      have library : a.loadField UInt32 addr .functionLibrary = .ok v.library :=
        lies.load_field _ _ [Kind.function.tag] (FixedWidth.encode v.index)
          (by simp [Cell.bytes, Cell.payload, Content.payload, Cell.kind, Content.kind]) rfl
      have index : a.loadField UInt32 addr .functionIndex = .ok v.index :=
        lies.load_field _ _ (Kind.function.tag :: FixedWidth.encode v.library) []
          (by simp [Cell.bytes, Cell.payload, Content.payload, Cell.kind, Content.kind])
          (by simp [FixedWidth.length_encode]; rfl)
      simp only [Cell.kind, Content.kind, if_true, library, index, bind, Except.bind]
      rfl
    | _ => rfl
  | list | item | object => rfl

theorem readNativeIndex_of_lies (lies : a.store.Lies addr c) :
    a.readNativeIndex (.stored ⟨c.kind, size, addr⟩) = c.nativeIndex := by
  simp only [readNativeIndex, descriptor?_of_lies lies, Handle.kind]
  cases c with
  | plain content =>
    have loaded := @load_plain a addr size content lies
    cases content with
    | nativeObject v | nativeFunction v => exact loaded rfl (by decide)
    | _ => rfl
  | list | item | object => rfl

theorem readDouble_of_holds (holds : a.store.Holds heap) (found : heap addr = some c) :
    a.readDouble (heap.handleAt addr) = c.double := by
  rw [Heap.handleAt_of_some found]
  exact readDouble_of_lies (holds.lies found)

theorem readString_of_holds (holds : a.store.Holds heap) (found : heap addr = some c) :
    a.readString (heap.handleAt addr) = c.text := by
  rw [Heap.handleAt_of_some found]
  exact readString_of_lies (holds.lies found)

/-- A handle with a number reads as one, and as a text too. -/
theorem reads_of_numeric {h : Handle} (holds : a.store.Holds heap) (issued : heap.Issued h)
    (numeric : h.kind.isNumeric = true) :
    (∃ s, a.readString h = .ok s) ∧ ∃ y, a.readDouble h = .ok y := by
  rcases issued.shape with ⟨v, rfl⟩ | rfl | ⟨addr, c, found, rfl⟩
  · exact ⟨⟨_, rfl⟩, ⟨_, rfl⟩⟩
  · cases numeric
  · have kind : (heap.handleAt addr).kind = c.kind := by
      rw [Heap.handleAt_of_some found]
      rfl
    have other : c.kind ≠ .string := by
      intro string
      rw [kind, string] at numeric
      cases numeric
    rw [readString_of_holds holds found, readDouble_of_holds holds found]
    rw [kind] at numeric
    exact ⟨(Cell.text_iff other).mpr numeric, (Cell.double_iff c).mpr numeric⟩

end Arena
end ValueArena
