import ValueArena.MemoryError

/-!
How an arena may grow: the size of a standard page, a ceiling on all bytes reserved, and the pages
that the system has no memory for.
-/
namespace ValueArena

/-- The pages that the system refuses, each by how many there are before it and by its size. Asked
for the same page again it answers the same. -/
class System where
  refused : List (Nat × Nat)
  deriving DecidableEq, Repr

/-- Unless something else is said the system refuses no page. -/
instance : System := ⟨[]⟩

structure Config where
  pageSize : Nat
  maxBytes : Option Nat
  [system : System]
  deriving DecidableEq, Repr

namespace Config

def standard : Config := ⟨4096, none⟩

/-- Holds any value of fixed size with its tag. -/
def minPageSize : Nat := 64

def validate (c : Config) : Except MemoryError Unit :=
  if c.pageSize < minPageSize then
    .error (.invalidConfig s!"page_size must be >= {minPageSize} (got {c.pageSize})")
  else if 0xFFFFFFFF < c.pageSize then
    .error (.invalidConfig s!"page_size must fit in u32 (got {c.pageSize})")
  else .ok ()

/-- Whether `reserved` bytes in all stay under the ceiling. -/
def allows (c : Config) (reserved : Nat) : Bool :=
  match c.maxBytes with
  | none => true
  | some most => reserved ≤ most

/-- Whether the system provides a page of this size when there are `pages` already. -/
def provides (c : Config) (pages size : Nat) : Bool := !c.system.refused.contains (pages, size)

end Config
end ValueArena
