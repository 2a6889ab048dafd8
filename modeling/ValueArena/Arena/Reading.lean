import ValueArena.Arena.Basic
import ValueArena.Number.Binary32
import ValueArena.Number.Decimal
import ValueArena.Value.FunctionRef

/-!
Typed reads of a handle. Numbers widen or lose their fraction to fit the type asked for; a kind
without a number or a text is refused.
-/
namespace ValueArena

/-- Doubles and floats from 0.0001 up to 10^16 are written without an exponent. -/
def numberStyle : Decimal.Style := ⟨-4, 15⟩

def Binary64.text (v : Binary64) : String := v.unpack.text numberStyle .double

def Binary32.text (v : Binary32) : String := v.unpack.text numberStyle .single

namespace Arena

def storedValue (h : Handle) : Except MemoryError Descriptor :=
  match h.descriptor? with
  | some d => .ok d
  | none => .error (.unsupportedSourceType h.kind)

/-- Floating values lose their fraction and stay within 64 bits. -/
def readLong (a : Arena) : Handle → Except MemoryError Int64
  | .immediate v => .ok v
  | .stored s => do
    let d ← storedValue (.stored s)
    match d.kind with
    | .byte => return (← a.load UInt8 d.payload).toUInt64.toInt64
    | .integer => return (← a.load Int32 d.payload).toInt64
    | .long => a.load Int64 d.payload
    | .float => return (← a.load Binary32 d.payload).widen.toInt64
    | .double => return (← a.load Binary64 d.payload).toInt64
    | kind => .error (.unsupportedSourceType kind)

def readDouble (a : Arena) : Handle → Except MemoryError Binary64
  | .immediate v => .ok (.ofInt v.toInt)
  | .stored s => do
    let d ← storedValue (.stored s)
    match d.kind with
    | .byte => return .ofInt (← a.load UInt8 d.payload).toNat
    | .integer => return .ofInt (← a.load Int32 d.payload).toInt
    | .long => return .ofInt (← a.load Int64 d.payload).toInt
    | .float => return (← a.load Binary32 d.payload).widen
    | .double => a.load Binary64 d.payload
    | kind => .error (.unsupportedSourceType kind)

/-- Longs and immediates wrap; floating values stay within 32 bits. -/
def readInteger (a : Arena) (h : Handle) : Except MemoryError Int32 := do
  match h.kind with
  | .integer => a.load Int32 (← storedValue h).payload
  | .float | .double => return (← a.readDouble h).toInt32
  | _ => return (← a.readLong h).toInt32

/-- The text of a string, or a number written out. -/
def readString (a : Arena) (h : Handle) : Except MemoryError String := do
  match h.kind with
  | .string => return Utf8.decode (← a.store.loadBytes (← storedValue h))
  | .float => return (← a.load Binary32 (← storedValue h).payload).text
  | .double => return (← a.readDouble h).text
  | .byte | .integer | .long | .value => return Int.repr (← a.readLong h).toInt
  | kind => .error (.unsupportedSourceType kind)

/-- Whether the handle is a string of exactly these bytes. -/
def hasBytes (a : Arena) (h : Handle) (bytes : List UInt8) : Except MemoryError Bool :=
  match h.descriptor? with
  | some d => if d.kind = .string then (a.store.loadBytes d).map (· == bytes) else .ok false
  | none => .ok false

def readFunction (a : Arena) (h : Handle) : Except MemoryError FunctionRef := do
  let d ← h.require .function
  let library ← a.loadField UInt32 d.addr .functionLibrary
  let index ← a.loadField UInt32 d.addr .functionIndex
  return ⟨library, index⟩

/-- The registry index of a native object or a native function. -/
def readNativeIndex (a : Arena) (h : Handle) : Except MemoryError UInt32 :=
  let mismatch := .error (.kindMismatch .nativeObject h.kind)
  match h.descriptor? with
  | some d =>
    match d.kind with
    | .nativeObject | .nativeFunction => a.load UInt32 d.payload
    | _ => mismatch
  | none => mismatch

end Arena
end ValueArena
