import ValueArena.Arena.Basic
import ValueArena.Number.Binary32
import ValueArena.Value.FunctionRef

/-!
New values. Each is written whole right after its bytes are given out; an object also gets the two
lists it consists of.
-/
namespace ValueArena

/-- A value to create, other than a list or an object. -/
inductive Content where
  | none
  | byte (v : UInt8)
  | integer (v : Int32)
  | long (v : Int64)
  | float (v : Binary32)
  | double (v : Binary64)
  | string (v : String)
  | function (v : FunctionRef)
  | nativeObject (index : UInt32)
  | nativeFunction (index : UInt32)
  deriving DecidableEq, Repr

namespace Arena

def createScalar [FixedWidth α] (kind : Kind) (v : α) : ArenaStep Handle := do
  let d ← allocate kind kind.fixedSize
  write d.payload v
  pure (.stored d)

def createDouble (v : Binary64) : ArenaStep Handle := createScalar .double v

def createString (text : String) : ArenaStep Handle := do
  let length := (Utf8.encode text).length
  if length + 4 ≤ 0xFFFFFFFF then
    let d ← allocate .string (UInt32.ofNat (length + 4))
    onStore (·.storeText d.addr text)
    pure (.stored d)
  else .view fun a => .error (.allocationFailed length a.spaceOccupied)

def createFunction (f : FunctionRef) : ArenaStep Handle := do
  let d ← allocate .function Kind.function.fixedSize
  writeField d.addr .functionLibrary f.library
  writeField d.addr .functionIndex f.index
  pure (.stored d)

def create : Content → ArenaStep Handle
  | .none => do pure (.stored (← allocate .none 0))
  | .byte v => createScalar .byte v
  | .integer v => createScalar .integer v
  | .long v => createScalar .long v
  | .float v => createScalar .float v
  | .double v => createDouble v
  | .string v => createString v
  | .function v => createFunction v
  | .nativeObject index => createScalar .nativeObject index
  | .nativeFunction index => createScalar .nativeFunction index

/-- An empty list: no first, no last, count 0. -/
def createList : ArenaStep Handle := do
  let d ← allocate .list Kind.list.fixedSize
  writeField d.addr .listFirst Addr.null
  writeField d.addr .listLast Addr.null
  writeField d.addr .listCount (0 : UInt32)
  pure (.stored d)

/-- An empty object with the two lists of its keys and values, which come first. -/
def createObject : ArenaStep Handle := do
  let keys ← createList
  let values ← createList
  let d ← allocate .object Kind.object.fixedSize
  writeField d.addr .objectKeys keys.addr
  writeField d.addr .objectValues values.addr
  pure (.stored d)

end Arena
end ValueArena
