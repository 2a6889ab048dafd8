import ValueArena.MemoryError

/-!
Handles: a value seen from outside the arena, either an integer the handle carries itself or the
kind, size and address of a stored value. Handles are plain data and own nothing.
-/
namespace ValueArena

structure Descriptor where
  kind : Kind
  /-- Payload bytes after the tag. -/
  size : UInt32
  /-- The address of the tag. -/
  addr : Addr
  deriving DecidableEq, Repr

/-- The address after the tag, null if the page has none. -/
def Descriptor.payload (d : Descriptor) : Addr := (d.addr.add? 1).getD .null

inductive Handle where
  | immediate (value : Int64)
  | stored (d : Descriptor)
  deriving DecidableEq, Repr

namespace Handle

/-- The empty slot of a list or object. -/
def none : Handle := .stored ⟨.none, 0, .null⟩

def kind : Handle → Kind
  | .immediate _ => .value
  | .stored d => d.kind

def size : Handle → UInt32
  | .immediate _ => 0
  | .stored d => d.size

def addr : Handle → Addr
  | .immediate _ => .null
  | .stored d => d.addr

/-- Set for handles of stored memory, which the empty slot is not. -/
def descriptor? : Handle → Option Descriptor
  | .immediate _ => Option.none
  | .stored d => if d.addr.isNull then Option.none else some d

def isNone (h : Handle) : Bool := h.kind == .none

def value : Handle → Except MemoryError Int64
  | .immediate v => .ok v
  | .stored d => .error (.kindMismatch .value d.kind)

/-- The descriptor, if the handle names stored memory of this very kind. -/
def require (h : Handle) (kind : Kind) : Except MemoryError Descriptor :=
  match h.descriptor? with
  | some d => if d.kind = kind then .ok d else .error (.kindMismatch kind h.kind)
  | Option.none => .error (.kindMismatch kind h.kind)

def text : Handle → String
  | .immediate v => "\x7bType:\"Value\", Size:0, Content:" ++ Int.repr v.toInt ++ "\x7d"
  | .stored d =>
    "\x7bType:\"" ++ d.kind.name ++ "\", Size:" ++ Nat.repr d.size.toNat ++ ", Addr:" ++
      d.addr.text ++ "\x7d"

end Handle
end ValueArena
