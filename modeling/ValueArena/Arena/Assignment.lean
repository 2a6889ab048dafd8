import ValueArena.Arena.Creation
import ValueArena.Arena.Reading
import ValueArena.Arena.Source

/-!
Assignment into a slot. The target's kind decides which sources it takes and whether its value is
overwritten in place or the target comes to name another value.
-/
namespace ValueArena.Assignment

/-- The numeric kinds a slot takes from a handle. -/
def takesNumber : Kind → Bool
  | .integer | .double | .value => true
  | _ => false

/-- The kinds an empty slot comes to name as they are. -/
def shares : Kind → Bool
  | .none | .string | .list | .object | .nativeObject | .nativeFunction => true
  | _ => false

/-- The number of a source that a numeric slot takes, read as that slot's kind. -/
def number (unsupported : MemoryError) (ofLiteral : Binary64 → α)
    (read : Arena → Handle → Except MemoryError α) : Source → ArenaStep α
  | .number v => pure (ofLiteral v)
  | .handle h => if takesNumber h.kind then .view (read · h) else .fail unsupported
  | .text _ => .fail unsupported

/-- What the target names after taking the source. -/
def target (old : Handle) (source : Source) : ArenaStep Handle := do
  let unsupported := .unsupportedCoercion old.kind source.kind
  match old.kind with
  | .none =>
    match source with
    | .number v => Arena.createDouble v
    | .text s => Arena.createString s
    | .handle h =>
      if takesNumber h.kind then Arena.createDouble (← .view (·.readDouble h))
      else if shares h.kind then pure h
      else .fail unsupported
  | .value => return .immediate (← number unsupported Binary64.toInt64 Arena.readLong source)
  | .integer =>
    let d ← .view fun _ => old.require .integer
    Arena.write d.payload (← number unsupported Binary64.toInt32 Arena.readInteger source)
    pure old
  | .double =>
    let d ← .view fun _ => old.require .double
    Arena.write d.payload (← number unsupported id Arena.readDouble source)
    pure old
  | .string =>
    match source with
    | .number v => Arena.createString v.text
    | .text s => Arena.createString s
    | .handle h =>
      if takesNumber h.kind || h.kind == .string then
        Arena.createString (← .view (·.readString h))
      else .fail unsupported
  | _ => .fail unsupported

end ValueArena.Assignment

namespace ValueArena

/-- Assigns to the target, which a failure leaves as it was. -/
def assign (source : Source) : Step MemoryError (Handle × Arena) Unit := fun (old, a) =>
  match Assignment.target old source a with
  | (.ok new, a) => (.ok (), (new, a))
  | (.error e, a) => (.error e, (old, a))

end ValueArena
