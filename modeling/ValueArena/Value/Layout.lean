import ValueArena.Memory.PageStore
import ValueArena.Text.Utf8
import ValueArena.Value.Handle

/-!
How values lie in memory: a tag byte and then the fields of the kind, little-endian and without
padding. A value found at an address is recognised by its tag and has to lie wholly within the bytes
given out.
-/
namespace ValueArena

/-- Distances from the tag to the fields of each kind. -/
structure Field where
  distance : UInt32
  deriving DecidableEq, Repr

namespace Field

def payload : Field := ⟨1⟩
def listFirst : Field := ⟨1⟩
def listLast : Field := ⟨9⟩
def listCount : Field := ⟨17⟩
def itemContent : Field := ⟨1⟩
def itemNext : Field := ⟨9⟩
def objectKeys : Field := ⟨1⟩
def objectValues : Field := ⟨9⟩
def functionLibrary : Field := ⟨1⟩
def functionIndex : Field := ⟨5⟩
def stringLength : Field := ⟨1⟩
def stringBytes : Field := ⟨5⟩

/-- Fails with the address of the value, not of the field. -/
def of (f : Field) (value : Addr) : Except MemoryError Addr :=
  match value.add? f.distance with
  | some addr => .ok addr
  | none => .error (.invalidAddress value)

end Field

namespace PageStore

def loadField (α : Type) [FixedWidth α] (s : PageStore) (value : Addr) (f : Field) :
    Except MemoryError α := do
  s.load α (← f.of value)

def storeField [FixedWidth α] (s : PageStore) (value : Addr) (f : Field) (v : α) :
    Except MemoryError PageStore := do
  s.store (← f.of value) v

/-- Writes the byte count and the bytes of a text into the string at `value`, and leaves its tag. -/
def storeText (s : PageStore) (value : Addr) (text : String) :
    Except MemoryError Unit × PageStore :=
  let bytes := Utf8.encode text
  if bytes.length ≤ 0xFFFFFFFF then
    match s.storeField value .stringLength (UInt32.ofNat bytes.length) with
    | .error e => (.error e, s)
    | .ok s =>
      match (Field.stringBytes.of value).bind fun addr => s.write addr bytes with
      | .error e => (.error e, s)
      | .ok s => (.ok (), s)
  else (.error (.allocationFailed bytes.length s.reserved), s)

/-- The bytes of the string at `d`, without its byte count. -/
def loadBytes (s : PageStore) (d : Descriptor) : Except MemoryError (List UInt8) := do
  s.read (← Field.stringBytes.of d.addr) (d.size.toNat - 4)

/-- The payload size of a value of this kind at `addr`. -/
def payloadSize (s : PageStore) (kind : Kind) (addr : Addr) : Except MemoryError UInt32 :=
  match kind with
  | .string => do
    let length ← s.loadField UInt32 addr .stringLength
    if length.toNat + 4 ≤ 0xFFFFFFFF then .ok (length + 4) else .error (.invalidAddress addr)
  | _ => .ok kind.fixedSize

/-- The value whose tag is at `addr`. -/
def decode (s : PageStore) (addr : Addr) : Except MemoryError Descriptor := do
  let tag ← s.load UInt8 addr
  match Kind.ofTag? tag with
  | none | some .value => .error (.unknownTag tag addr)
  | some kind =>
    let size ← s.payloadSize kind addr
    let _ ← s.locate addr (1 + size.toNat)
    .ok ⟨kind, size, addr⟩

end PageStore
end ValueArena
