import ValueArena.Step
import ValueArena.Value.Layout

/-!
The arena: stored values and a count of the writes that change what lists hold. Values are never
freed; a handle is found again from its address alone.
-/
namespace ValueArena

structure Arena where
  store : PageStore
  /-- Counts the writes that change what some list holds, and wraps. -/
  generation : UInt64
  deriving Repr

abbrev ArenaStep := Step MemoryError Arena

namespace Arena

def empty (config : Config) : Arena := ⟨.empty config, 0⟩

def standard : Arena := empty .standard

def ofConfig (config : Config) : Except MemoryError Arena := do
  config.validate
  .ok (empty config)

def config (a : Arena) : Config := a.store.config

def spaceOccupied (a : Arena) : Nat := a.store.reserved
def pageSize (a : Arena) : Nat := a.store.activeSize
def offset (a : Arena) : Nat := a.store.activeOffset
def pageCount (a : Arena) : Nat := a.store.pageCount

/-- The unused ends of earlier pages count as in use. -/
def bytesInUse (a : Arena) : Nat := a.spaceOccupied - a.pageSize + a.offset

def onStore (x : Step MemoryError PageStore α) : ArenaStep α :=
  .within Arena.store (fun s a => { a with store := s }) x

def load (α : Type) [FixedWidth α] (a : Arena) (addr : Addr) : Except MemoryError α :=
  a.store.load α addr

def loadField (α : Type) [FixedWidth α] (a : Arena) (value : Addr) (f : Field) :
    Except MemoryError α :=
  a.store.loadField α value f

def write [FixedWidth α] (addr : Addr) (v : α) : ArenaStep Unit :=
  onStore (.update (·.store addr v))

def writeField [FixedWidth α] (value : Addr) (f : Field) (v : α) : ArenaStep Unit :=
  onStore (.update (·.storeField value f v))

def bumpGeneration : ArenaStep Unit :=
  .modify fun a => { a with generation := a.generation + 1 }

/-- Gives out the bytes of a value and writes its tag. -/
def allocate (kind : Kind) (size : UInt32) : ArenaStep Descriptor := do
  let addr ← onStore (·.reserve (1 + size.toNat))
  write addr kind.tag
  pure ⟨kind, size, addr⟩

/-- The value at an address. The null address is the empty slot. -/
def decode (a : Arena) (addr : Addr) : Except MemoryError Handle :=
  if addr.isNull then .ok .none else (a.store.decode addr).map .stored

end Arena
end ValueArena
