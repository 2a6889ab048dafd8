import ValueArena.Proofs.Run.Writes

/-!
Programs from an empty arena. A picture of the arena is carried along from statement to statement;
what the commands keep therefore holds after any program.
-/
namespace ValueArena

variable {T : Type → Type → Type} [KeyMap T]

namespace Command

variable {n m : Names} {a b : Arena} {p q : Picture} {c : Command} {changes : List Change}
  {result : Except Fault Answer}

theorem Performs.length_le (performs : Performs n a b c result changes) : changes.length ≤ 2 := by
  cases performs <;> simp

/-- The count of the arena tells how many times a command wrote its lists. -/
theorem Advances.written (shows : a.Shows p) (advances : Advances n a p c result m b q changes) :
    (b.generation - a.generation).toNat = changes.length := by
  have short := advances.performs.length_le
  have after := advances.shows.generation
  rw [advances.evolves.writes, UInt64.ofNat_add, ← shows.generation] at after
  rw [after, UInt64.add_comm, UInt64.add_sub_cancel, UInt64.toNat_ofNat',
    Nat.mod_eq_of_lt (by omega)]

/-- Only lists that are there are changed. -/
theorem Performs.unlisted (performs : Performs n a b c result changes) (names : n.Fits p)
    {l : Addr} (unlisted : ¬ p.heap.IsList l) : changes.foldl (Change.on l) [] = [] := by
  cases performs with
  | quiet => rfl
  | failed => rfl
  | append name command content v h item kept form view =>
    simp [Change.on, (names.lists name v view).ne_of_unlisted unlisted]
  | replace => rfl
  | addKey name key o item e view =>
    have sees := names.objects name o view
    simp [Change.on, sees.keys.ne_of_unlisted unlisted, sees.values.ne_of_unlisted unlisted]
  | addKeyAlone name key o fault e view =>
    simp [Change.on, (names.objects name o view).keys.ne_of_unlisted unlisted]

end Command

namespace Statement

/-- The names and the arena after a program. -/
def after (r : Registry T) (config : Config) (program : List Statement) : Names × Arena :=
  (runAll r program (.empty, .empty config)).2

/-- How many times the lists of the arena are written as a program runs. -/
def listWrites (r : Registry T) : List Statement → Names × Arena → Nat
  | [], _ => 0
  | s :: rest, state =>
    let next := (s.run r state).2
    (next.2.generation - state.2.generation).toNat + listWrites r rest next

/-- A list of a number, and an object whose one key has the list's item for its value. -/
def sample : List Statement :=
  [⟨some "list", .listCreate⟩,
   ⟨some "item", .onList "list" (.append (.immediate 7))⟩,
   ⟨some "object", .objectCreate⟩,
   ⟨some "slot", .onObject "object" (.addKey "key")⟩,
   ⟨none, .onObject "object" (.set "key" (.named "item"))⟩]

/-- Every statement of a program finds what it asks for in the state that it starts from. -/
def Throughout (r : Registry T) (asks : Names × Arena → Statement → Prop) :
    List Statement → Names × Arena → Prop
  | [], _ => True
  | s :: rest, state => asks state s ∧ Throughout r asks rest (s.run r state).2

theorem run_unnamed (r : Registry T) (c : Command) : (Statement.mk none c).run r = c.run r := by
  simp [run]

theorem runAll_append (r : Registry T) (first second : List Statement) (state : Names × Arena) :
    (runAll r (first ++ second) state).2 = (runAll r second (runAll r first state).2).2 := by
  induction first generalizing state with
  | nil => rfl
  | cons s rest ih => exact ih _

theorem after_concat (r : Registry T) (config : Config) (program : List Statement)
    (s : Statement) :
    after r config (program ++ [s]) = (s.run r (after r config program)).2 := by
  rw [after, runAll_append]
  rfl

variable {n : Names} {a : Arena} {p : Picture}

/-- A statement does what its command does, and keeps what that answers. -/
theorem leads_run (r : Registry T) (shows : a.Shows p) (names : n.Fits p) {s : Statement}
    (allowed : s.command.isPublic = true) : Command.Leads n a p s.command (s.run r) := by
  obtain ⟨q, changes, advances⟩ := Command.leads_run r shows names allowed
  obtain ⟨result, ⟨m, b⟩, ran⟩ : ∃ result t, s.command.run r (n, a) = (result, t) := ⟨_, _, rfl⟩
  rw [ran] at advances
  cases result with
  | error e => exact Command.leads_of_apply (Step.bind_error ran) advances
  | ok answer =>
    rw [Command.Leads, run, Step.bind_ok ran]
    cases s.keepAs with
    | none => exact ⟨q, changes, advances⟩
    | some name =>
      exact ⟨q, changes, advances.shows, advances.evolves,
        advances.names.keep name (advances.answer answer rfl), advances.answer, advances.performs⟩

/-- What every statement keeps holds after all of them. The lists are written less often than
`limit`. -/
theorem runAll_keeps (r : Registry T) (limit : Nat) (kept : Picture → Prop)
    {asks : Names × Arena → Statement → Prop}
    (keeps : ∀ n a p s m b q result changes, a.Shows p → n.Fits p → p.writes < limit →
      asks (n, a) s → Command.Advances n a p s.command result m b q changes → kept p → kept q)
    (program : List Statement) (allowed : ∀ s ∈ program, s.command.isPublic = true)
    (shows : a.Shows p) (names : n.Fits p) (few : p.writes + listWrites r program (n, a) < limit)
    (asked : Throughout r asks program (n, a)) (now : kept p) :
    ∃ q, (runAll r program (n, a)).2.2.Shows q ∧ (runAll r program (n, a)).2.1.Fits q ∧
      q.writes = p.writes + listWrites r program (n, a) ∧ kept q := by
  -- The picture after a statement is the one that the rest of the program starts from, and what
  -- the statement wrote is taken off the limit.
  induction program generalizing n a p with
  | nil => exact ⟨p, shows, names, rfl, now⟩
  | cons s rest ih =>
    obtain ⟨here, later⟩ := asked
    obtain ⟨q, changes, advances⟩ := leads_run r shows names (allowed s (.head _))
    have count := advances.evolves.writes
    have total : p.writes + listWrites r (s :: rest) (n, a) =
        q.writes + listWrites r rest (s.run r (n, a)).2 := by
      rw [listWrites, advances.written shows, count, Nat.add_assoc]
    rw [total] at few ⊢
    exact ih (fun s' member => allowed s' (.tail _ member)) advances.shows advances.names few later
      (keeps _ _ _ _ _ _ _ _ _ shows names (by omega) here advances now)

/-- What a program does from an empty arena. -/
theorem after_keeps (r : Registry T) (config : Config) (limit : Nat) (kept : Picture → Prop)
    {asks : Names × Arena → Statement → Prop}
    (keeps : ∀ n a p s m b q result changes, a.Shows p → n.Fits p → p.writes < limit →
      asks (n, a) s → Command.Advances n a p s.command result m b q changes → kept p → kept q)
    {program : List Statement} (allowed : ∀ s ∈ program, s.command.isPublic = true)
    (few : listWrites r program (.empty, .empty config) < limit)
    (asked : Throughout r asks program (.empty, .empty config)) (now : kept (.empty config)) :
    ∃ q, (after r config program).2.Shows q ∧ (after r config program).1.Fits q ∧
      q.writes = listWrites r program (.empty, .empty config) ∧ kept q := by
  have none : (Picture.empty config).writes = 0 := rfl
  obtain ⟨q, shows, names, writes, kept_q⟩ := runAll_keeps r limit kept keeps program allowed
    (Arena.empty_shows config) (Names.empty_fits _) (by omega) asked now
  exact ⟨q, shows, names, by omega, kept_q⟩

/-- A command writes at most two lists. -/
theorem listWrites_le (r : Registry T) {program : List Statement}
    (allowed : ∀ s ∈ program, s.command.isPublic = true) (shows : a.Shows p) (names : n.Fits p) :
    listWrites r program (n, a) ≤ 2 * program.length := by
  induction program generalizing n a p with
  | nil => exact Nat.le_refl 0
  | cons s rest ih =>
    obtain ⟨q, changes, advances⟩ := leads_run r shows names (allowed s (.head _))
    have later : listWrites r rest (s.run r (n, a)).2 ≤ 2 * rest.length :=
      ih (fun s' member => allowed s' (.tail _ member)) advances.shows advances.names
    have short := advances.performs.length_le
    rw [listWrites, advances.written shows, List.length_cons]
    omega

theorem throughout_of_forall (r : Registry T) {asks : Names × Arena → Statement → Prop}
    {program : List Statement} (given : ∀ s ∈ program, ∀ state, asks state s)
    (state : Names × Arena) : Throughout r asks program state := by
  induction program generalizing state with
  | nil => trivial
  | cons s rest ih =>
    exact ⟨given s (.head _) state, ih (fun t member => given t (.tail _ member)) _⟩

/-- Whatever program has run, the arena shows a picture that the names fit. -/
theorem after_shows (r : Registry T) (config : Config) {program : List Statement}
    (allowed : ∀ s ∈ program, s.command.isPublic = true) :
    ∃ p, (after r config program).2.Shows p ∧ (after r config program).1.Fits p ∧
      p.writes = listWrites r program (.empty, .empty config) := by
  obtain ⟨p, shows, names, writes, _⟩ := after_keeps r config _ (fun _ => True)
    (fun _ _ _ _ _ _ _ _ _ _ _ _ _ _ _ => trivial) allowed (Nat.lt_succ_self _)
    (throughout_of_forall r (fun _ _ _ => trivial) _) trivial
  exact ⟨p, shows, names, writes⟩

end Statement
end ValueArena
