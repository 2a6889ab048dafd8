import ValueArena.Program.Execution

/-!
Programs: commands in order, each with the name to keep its result under. A failure stops nothing.
-/
namespace ValueArena

variable {T : Type → Type → Type} [KeyMap T]

structure Statement where
  keepAs : Option String
  command : Command
  deriving DecidableEq, Repr

namespace Statement

def run (r : Registry T) (s : Statement) : CommandStep Answer := do
  let answer ← s.command.run r
  match s.keepAs with
  | none => pure answer
  | some name =>
    .modify fun (n, a) => (n.keep name answer, a)
    pure answer

/-- The answers of the statements and the state after the last. -/
def runAll (r : Registry T) : List Statement → Names × Arena →
    List (Except Fault Answer) × (Names × Arena)
  | [], state => ([], state)
  | s :: rest, state =>
    let (answer, state) := s.run r state
    let (answers, state) := runAll r rest state
    (answer :: answers, state)

end Statement
end ValueArena
