import ValueArena.Program.Statement

/-!
Statements over several arenas. The names are shared, so a handle may be used with an arena other
than its own; it is then an address like any other.
-/
namespace ValueArena

structure Session (T : Type → Type → Type := Table) where
  arenas : Array Arena
  names : Names
  registry : Registry T

inductive Action where
  | newArena (config : Config)
  | statement (s : Statement)
  deriving DecidableEq, Repr

/-- An action on the arena of this number. -/
structure Request where
  arena : Nat
  action : Action
  deriving DecidableEq, Repr

namespace Session

variable {T : Type → Type → Type} [KeyMap T]

def start (config : Config) (registry : Registry T) : Except MemoryError (Session T) := do
  return ⟨#[← Arena.ofConfig config], .empty, registry⟩

def step (s : Session T) (r : Request) : Except Fault Answer × Session T :=
  match s.arenas[r.arena]? with
  | none => (.error (.unbound "arena"), s)
  | some a =>
    match r.action with
    | .newArena config =>
      match Arena.ofConfig config with
      | .error e => (.error (.memory e), s)
      | .ok new => (.ok (.newArena s.arenas.size), { s with arenas := s.arenas.push new })
    | .statement statement =>
      let (answer, names, a) := statement.run s.registry (s.names, a)
      (answer, { s with arenas := s.arenas.setIfInBounds r.arena a, names })

end Session
end ValueArena
