import ValueArena.Arena.Reading
import ValueArena.Arena.Source

/-!
Arithmetic on doubles in place.
-/
namespace ValueArena

inductive Operation where
  | add
  | sub
  | mul
  | div
  deriving DecidableEq, Repr

def Operation.eval : Operation → Binary64 → Binary64 → Binary64
  | .add => Binary64.add
  | .sub => Binary64.sub
  | .mul => Binary64.mul
  | .div => Binary64.div

namespace Arena

/-- The right operand: a literal number or an integer, long or double value. -/
def operand (a : Arena) (target : Handle) (source : Source) : Except MemoryError Binary64 :=
  let unsupported := .error (.unsupportedCoercion target.kind source.kind)
  match source with
  | .number v => .ok v
  | .handle h =>
    match h.kind with
    | .integer | .long | .double => a.readDouble h
    | _ => unsupported
  | .text _ => unsupported

/-- Replaces the target's double by the result, and returns it. -/
def apply (op : Operation) (target : Handle) (source : Source) : ArenaStep Binary64 := do
  let d ← .view fun _ => target.require .double
  let right ← .view (·.operand target source)
  let left ← .view (·.load Binary64 d.payload)
  let result := op.eval left right
  write d.payload result
  pure result

end Arena
end ValueArena
