import ValueArena.Proofs.Calls.Commands

/-!
Programs under a ceiling and under a higher one. Until a statement finds that memory lacks under the
lower ceiling, both runs answer alike and leave the same names and arenas but for the ceiling.
-/
namespace ValueArena.Statement

variable {T : Type → Type → Type} [KeyMap T]

open PageStore

/-- Each statement's answer with the state that it leaves. -/
def trace (r : Registry T) : List Statement → Names × Arena →
    List (Except Fault Answer × Names × Arena)
  | [], _ => []
  | s :: rest, state =>
    let (answer, state) := s.run r state
    (answer, state) :: trace r rest state

/-- The statement did not fail for want of memory. -/
def served : Except Fault Answer × Names × Arena → Bool
  | (.error e, _) => !decide e.lacksMemory
  | (.ok _, _) => true

/-- The answers of a trace are those of the program. -/
theorem trace_answers (r : Registry T) (program : List Statement) (state : Names × Arena) :
    (trace r program state).map Prod.fst = (runAll r program state).1 := by
  induction program generalizing state with
  | nil => rfl
  | cons s rest ih => simp only [trace, runAll, List.map_cons, ih]

end ValueArena.Statement
