import ValueArena.Memory.Addr
import ValueArena.Value.Kind

/-!
Why an operation on an arena fails, and the text of each cause.
-/
namespace ValueArena

inductive MemoryError where
  | outOfBounds (index count : Nat)
  | keyNotFound (key : String)
  | unsupportedCoercion (target source : Kind)
  | unsupportedSourceType (kind : Kind)
  | allocationFailed (requested reserved : Nat)
  | invalidAddress (addr : Addr)
  | unknownTag (tag : UInt8) (addr : Addr)
  | kindMismatch (expected found : Kind)
  | invalidConfig (reason : String)
  deriving DecidableEq, Repr

def MemoryError.message : MemoryError → String
  | .outOfBounds index count => s!"index {index} out of bounds for list of {count} items"
  | .keyNotFound key => "key '" ++ key ++ "' not found in object"
  | .unsupportedCoercion target source =>
    s!"cannot assign a {source.name} value to a {target.name} slot"
  | .unsupportedSourceType kind => s!"unsupported source type {kind.name}"
  | .allocationFailed requested reserved =>
    s!"page allocation failed: requested {requested} bytes with {reserved} bytes reserved"
  | .invalidAddress addr => s!"invalid arena address {addr.text}"
  | .unknownTag tag addr => "unknown value tag " ++ Hex.text 2 tag.toNat ++ " at " ++ addr.text
  | .kindMismatch expected found => s!"expected a {expected.name} value, found {found.name}"
  | .invalidConfig reason => "invalid arena config: " ++ reason

end ValueArena
