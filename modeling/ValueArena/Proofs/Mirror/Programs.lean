import ValueArena.Program.Statement
import ValueArena.Proofs.Mirror.Commands
import ValueArena.Proofs.Run.Program

/-!
Programs do not depend on the size of pages. Two empty arenas mirror each other, and what a program
does to them keeps it so; its answers then differ in nothing but where values lie, unless one of the
arenas runs out of memory.
-/
namespace ValueArena

variable {T : Type → Type → Type} [KeyMap T]

namespace Statement

/-- The handles of an answer; a failure has none. -/
def shownIn : Except Fault Answer → List Handle
  | .ok answer => answer.shown
  | .error _ => []

/-- The handles of all answers, in order. -/
def shown (answers : List (Except Fault Answer)) : List Handle := answers.flatMap shownIn

def lacksMemory (answers : List (Except Fault Answer)) : Prop :=
  ∃ n m, .error (.memory (.allocationFailed n m)) ∈ answers

/-- Two runs of a program cannot be told apart but by addresses: failures are the same, answers are
the same once addresses are forgotten, so that their handles stand at the same places, and any two
of these are equal in one run if and only if they are in the other. -/
structure Alike (left right : List (Except Fault Answer)) : Prop where
  answers : left.map (Except.map Answer.forget) = right.map (Except.map Answer.forget)
  handles : ∀ i j : Nat, (shown left)[i]? = (shown left)[j]? ↔ (shown right)[i]? = (shown right)[j]?

/-- What a program answers on an empty arena. -/
def answers (r : Registry T) (config : Config) (program : List Statement) :
    List (Except Fault Answer) :=
  (runAll r program (.empty, .empty config)).1

theorem runAll_cons (r : Registry T) (s : Statement) (rest : List Statement)
    (state : Names × Arena) :
    (runAll r (s :: rest) state).1 = (s.run r state).1 :: (runAll r rest (s.run r state).2).1 := rfl

variable {answer : Except Fault Answer} {later : List (Except Fault Answer)}

theorem lacksMemory_head {e : Fault} (lacks : e.lacksMemory) (failed : answer = .error e) :
    lacksMemory (answer :: later) := by
  subst failed
  cases e with
  | unbound name => exact lacks.elim
  | memory e =>
    cases e with
    | allocationFailed n m => exact ⟨n, m, .head _⟩
    | _ => exact lacks.elim

theorem not_lacksMemory_of_isOk {answers : List (Except Fault Answer)}
    (ok : answers.all Except.isOk = true) : ¬ lacksMemory answers := by
  rintro ⟨n, m, member⟩
  cases List.all_eq_true.mp ok _ member

theorem lacksMemory.tail (lacks : lacksMemory later) : lacksMemory (answer :: later) := by
  obtain ⟨n, m, member⟩ := lacks
  exact ⟨n, m, .tail _ member⟩

end Statement

namespace Mirror

variable {M : Mirror} {s t : Names × Arena}

theorem empty_corresponds (config config' : Config) :
    empty.Corresponds (.empty, .empty config) (.empty, .empty config') :=
  ⟨empty_mirrors config config', empty_sameNames empty⟩

theorem agree_statement (r : Registry T) (here : M.Corresponds s t) (statement : Statement)
    (portable : statement.command.isPortable = true) :
    Agree runs M (statement.run r) (statement.run r) SameAnswer s t := by
  refine (agree_run here r statement.command portable).bind ?_
  intro N s t answer answer' leads (here : N.Corresponds s t) same
  cases statement.keepAs with
  | none => exact agree_return here same
  | some name =>
    exact agree_of_apply rfl rfl (.refl N) ⟨here.mirrors, here.names.keep name same⟩ (.ok same)

theorem rel_eq_iff (sound : M.Sound) {u v u' v' : Option Handle} (first : Option.Rel M.Same u u')
    (second : Option.Rel M.Same v v') : u = v ↔ u' = v' := by
  cases first with
  | none =>
    cases second with
    | none => exact Iff.rfl
    | some => exact iff_of_false nofun nofun
  | some same =>
    cases second with
    | none => exact iff_of_false nofun nofun
    | some same' =>
      rw [Option.some_inj, Option.some_inj]
      exact same.eq_iff same' sound

/-- Handles that correspond one by one are equal at the same places. -/
theorem getElem?_eq_iff {gs hs : List Handle} (same : List.Forall₂ M.Same gs hs) (sound : M.Sound)
    (i j : Nat) : gs[i]? = gs[j]? ↔ hs[i]? = hs[j]? := by
  have found : ∀ i : Nat, Option.Rel M.Same gs[i]? hs[i]? := by
    intro i
    induction same generalizing i with
    | nil => exact .none
    | cons here _ ih =>
      cases i with
      | zero => exact .some here
      | succ i => exact ih i
  exact rel_eq_iff sound (found i) (found j)

theorem outcome_forget {u v : Except Fault Answer} (outcome : Outcome M.SameAnswer u v)
    (sound : M.Sound) : u.map Answer.forget = v.map Answer.forget := by
  cases outcome with
  | ok same => exact congrArg Except.ok (same.forget sound)
  | error e => rfl

theorem outcome_shown {u v : Except Fault Answer} (outcome : Outcome M.SameAnswer u v) :
    List.Forall₂ M.Same (Statement.shownIn u) (Statement.shownIn v) := by
  cases outcome with
  | ok same => exact same.shown
  | error e => exact .nil

/-- Statement by statement both runs answer alike, until one lacks memory. -/
theorem runAll_same (r : Registry T) (program : List Statement)
    (portable : ∀ s ∈ program, s.command.isPortable = true) (here : M.Corresponds s t) :
    Statement.lacksMemory (Statement.runAll r program s).1 ∨
      Statement.lacksMemory (Statement.runAll r program t).1 ∨
      ∃ N, M.Leads N ∧ N.Sound ∧
        (Statement.runAll r program s).1.map (Except.map Answer.forget) =
          (Statement.runAll r program t).1.map (Except.map Answer.forget) ∧
        List.Forall₂ N.Same (Statement.shown (Statement.runAll r program s).1)
          (Statement.shown (Statement.runAll r program t).1) := by
  -- The mirror after a statement is the one that the rest of the program starts from.
  induction program generalizing M s t with
  | nil => exact .inr (.inr ⟨M, .refl M, here.mirrors.sound, rfl, .nil⟩)
  | cons statement rest ih =>
    have agree := agree_statement r here statement (portable statement (.head _))
    rw [Statement.runAll_cons, Statement.runAll_cons]
    rcases agree with ⟨e, lacks, failed⟩ | ⟨e, lacks, failed⟩ | ⟨N, leads, states, outcome⟩
    · exact .inl (Statement.lacksMemory_head lacks failed)
    · exact .inr (.inl (Statement.lacksMemory_head lacks failed))
    · have after : N.Corresponds (statement.run r s).2 (statement.run r t).2 := states
      rcases ih (fun s member => portable s (.tail _ member)) after with
        later | later | ⟨P, leads', sound, same, handles⟩
      · exact .inl later.tail
      · exact .inr (.inl later.tail)
      · refine .inr (.inr ⟨P, leads.trans leads', sound, ?_, ?_⟩)
        · rw [List.map_cons, List.map_cons, same, outcome_forget outcome after.mirrors.sound]
        · exact List.rel_append ((outcome_shown outcome).imp fun _ _ same =>
            same.leads leads' after.mirrors.sound) handles

end Mirror

namespace Statement

/-- Page sizes do not show in what a program answers, as long as there is memory. -/
theorem answers_alike (r : Registry T) (config config' : Config) (program : List Statement)
    (portable : ∀ s ∈ program, s.command.isPortable = true)
    (enough : ¬ lacksMemory (answers r config program))
    (enough' : ¬ lacksMemory (answers r config' program)) :
    Alike (answers r config program) (answers r config' program) := by
  rcases Mirror.runAll_same r program portable (Mirror.empty_corresponds config config') with
    lacking | lacking | ⟨N, _, sound, same, handles⟩
  · exact absurd lacking enough
  · exact absurd lacking enough'
  · exact ⟨same, Mirror.getElem?_eq_iff handles sound⟩

/-- On small pages the values of the sample lie elsewhere than on large ones. -/
theorem answers_alike_sample :
    shown (answers .empty ⟨64, none⟩ sample) ≠ shown (answers .empty ⟨4096, none⟩ sample) ∧
      ¬ lacksMemory (answers .empty ⟨64, none⟩ sample) ∧
      ¬ lacksMemory (answers .empty ⟨4096, none⟩ sample) ∧
      Alike (answers .empty ⟨64, none⟩ sample) (answers .empty ⟨4096, none⟩ sample) := by
  have small : ¬ lacksMemory (answers .empty ⟨64, none⟩ sample) :=
    not_lacksMemory_of_isOk (by decide +kernel)
  have large : ¬ lacksMemory (answers .empty ⟨4096, none⟩ sample) :=
    not_lacksMemory_of_isOk (by decide +kernel)
  exact ⟨by decide +kernel, small, large,
    answers_alike .empty ⟨64, none⟩ ⟨4096, none⟩ sample (by decide) small large⟩

end Statement
end ValueArena
