import ValueArena.Number.Binary64
import ValueArena.Value.Handle

/-!
Values offered to an assignment or a computation: a number or text given literally, or a handle.
-/
namespace ValueArena

inductive Source where
  | number (v : Binary64)
  | text (v : String)
  | handle (h : Handle)
  deriving DecidableEq, Repr

namespace Source

/-- A literal number counts as a double and a literal text as a string. -/
def kind : Source → Kind
  | .number _ => .double
  | .text _ => .string
  | .handle h => h.kind

end Source
end ValueArena
