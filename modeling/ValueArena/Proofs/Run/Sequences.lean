import ValueArena.Proofs.Run.Program
import ValueArena.Proofs.View.Reads

/-!
Lists as sequences, over whole programs. Every list stands for one sequence, no item is shared, and
reads answer from the sequences. A command that succeeds changes them as it says, and no other
does.
-/
namespace ValueArena

variable {T : Type → Type → Type} [KeyMap T]

namespace Arena

/-- Each list stands for one sequence, and an item lies in one list. -/
structure HasSequences (a : Arena) : Prop where
  stands : ∀ l, a.Starts .list l → ∃ es, a.Represents l es
  unique : ∀ l es fs, a.Represents l es → a.Represents l fs → es = fs
  apart : ∀ l m es fs e f, a.Represents l es → a.Represents m fs → e ∈ es → f ∈ fs →
    e.item = f.item → l = m

/-- From `a` to `b` these changes are made to the lists, and new lists come without entries. -/
structure Changed (a b : Arena) (changes : List Change) : Prop where
  lists : ∀ l es, a.Represents l es → b.Represents l (changes.foldl (Change.on l) es)
  new : ∀ l es, b.Represents l es → a.Starts .list l ∨ a.Vacant l ∧ es = []

variable {a b : Arena} {p q : Picture} {changes : List Change}

theorem Shows.hasSequences (shows : a.Shows p) : a.HasSequences := by
  constructor
  · intro l list
    exact ⟨_, shows.represents ((isList_iff shows).mp list)⟩
  · intro l es fs left right
    exact (left.eq_lists shows).trans (right.eq_lists shows).symm
  · intro l m es fs e f left right at_e at_f same
    exact left.apart shows right at_e at_f same

/-- The sequences change by the writes alone, as long as only lists that are there are written. -/
theorem Shows.changed (shows : a.Shows p) (shows_b : b.Shows q) (evolves : p.Evolves changes q)
    (unlisted : ∀ l, ¬ p.heap.IsList l → changes.foldl (Change.on l) [] = []) :
    a.Changed b changes := by
  have grows := evolves.grows
  constructor
  · intro l es represents
    have list := grows.isList ((isList_iff shows).mp represents.list)
    rw [represents.eq_lists shows, ← evolves.lists]
    exact shows_b.represents list
  · intro l es represents
    by_cases list : p.heap.IsList l
    · exact .inl ((isList_iff shows).mpr list)
    · refine .inr ⟨(vacant_iff shows.holds).mpr ?_, ?_⟩
      · obtain ⟨first, last, count, found⟩ := (isList_iff shows_b).mp represents.list
        cases before : p.heap l with
        | none => rfl
        | some c =>
          obtain ⟨d, after, becomes⟩ := grows l c before
          rw [found] at after
          cases after
          exact absurd (Heap.isList_of_kind before becomes.kind.symm) list
      · rw [represents.eq_lists shows_b, evolves.lists, shows.formed.unlisted l list]
        exact unlisted l list

end Arena

namespace Command

variable {n m : Names} {a b : Arena} {p q : Picture} {c : Command} {changes : List Change}
  {result : Except Fault Answer}

theorem Advances.changed (advances : Advances n a p c result m b q changes) (shows : a.Shows p)
    (names : n.Fits p) : a.Changed b changes :=
  shows.changed advances.shows advances.evolves fun _ => advances.performs.unlisted names

end Command

namespace Statement

/-- In a state the lists are sequences, every view that is kept reads them, and every further
command changes them as it says. -/
structure KeepsSequences (r : Registry T) (state : Names × Arena) : Prop where
  lists : state.2.HasSequences
  reads : ∀ name v es, state.1.lists.find? name = some v →
    state.2.Represents v.header.addr es → v.Reads state.2 es
  steps : ∀ c : Command, c.isPublic = true → ∃ changes,
    c.Performs state.1 state.2 (c.run r state).2.2 (c.run r state).1 changes ∧
      state.2.Changed (c.run r state).2.2 changes

theorem keepsSequences_after (r : Registry T) (config : Config) (program : List Statement)
    (allowed : ∀ s ∈ program, s.command.isPublic = true)
    (few : listWrites r program (.empty, .empty config) < 0x10000000000000000) :
    KeepsSequences r (after r config program) := by
  obtain ⟨p, shows, names, writes⟩ := after_shows r config allowed
  constructor
  · exact shows.hasSequences
  · intro name v es found represents
    rw [represents.eq_lists shows]
    exact ListView.reads_of_sees shows (names.lists name v found) (by omega)
  · intro c public_c
    obtain ⟨q, changes, advances⟩ := Command.leads_run r shows names public_c
    exact ⟨changes, advances.performs, advances.changed shows names⟩

theorem keepsSequences_after_sample :
    listWrites .empty sample (.empty, .empty ⟨64, none⟩) = 4 ∧
      KeepsSequences .empty (after .empty ⟨64, none⟩ sample) := by
  have writes : listWrites .empty sample (.empty, .empty ⟨64, none⟩) = 4 := by decide +kernel
  exact ⟨writes, keepsSequences_after .empty ⟨64, none⟩ sample (by decide) (by rw [writes]; decide)⟩

end Statement
end ValueArena
