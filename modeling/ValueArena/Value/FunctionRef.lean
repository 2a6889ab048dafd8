/-!
A script function is named by its library and its index there.
-/
namespace ValueArena

structure FunctionRef where
  library : UInt32
  index : UInt32
  deriving DecidableEq, Repr

namespace FunctionRef

def text (f : FunctionRef) : String :=
  Nat.repr f.library.toNat ++ ":" ++ Nat.repr f.index.toNat

/-- By library, then by index. -/
instance : Ord FunctionRef :=
  ⟨fun a b => (compare a.library b.library).then (compare a.index b.index)⟩

end FunctionRef
end ValueArena
