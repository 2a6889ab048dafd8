import ValueArena.Arena.Basic
import ValueArena.Number.Binary64

/-!
Numbers overwritten in place, through a handle of their own kind.
-/
namespace ValueArena.Arena

def setPayload [FixedWidth α] (kind : Kind) (h : Handle) (v : α) : ArenaStep Unit := do
  let d ← .view fun _ => h.require kind
  write d.payload v

def setInteger (h : Handle) (v : Int32) : ArenaStep Unit := setPayload .integer h v
def setLong (h : Handle) (v : Int64) : ArenaStep Unit := setPayload .long h v
def setDouble (h : Handle) (v : Binary64) : ArenaStep Unit := setPayload .double h v

end ValueArena.Arena
