import ValueArena.Program.Session
import ValueArena.Proofs.Calls.Commands
import ValueArena.Proofs.Memory.Counters

/-!
The counters of every arena of a session, whatever handles its requests use and whether they fail.
An arena's store is always what some sequence of requests and writes makes of an empty one, and what
comes later adds to that sequence.
-/
namespace ValueArena

variable {T : Type → Type → Type} [KeyMap T]

open PageStore

/-- The store is what these calls make of an empty one. -/
structure Arena.MadeBy (a : Arena) (calls : List Call) : Prop where
  positive : .reserve 0 ∉ calls
  store : a.store = (callAll calls (.empty a.config)).2

/-- What the counters of an arena say about its pages. A page is of the standard size or was opened
for the only request that it ever serves. -/
structure Arena.Counts (a : Arena) (calls : List Call) : Prop where
  occupied : a.spaceOccupied = a.store.capacities.sum
  ceiling : ∀ most, a.config.maxBytes = some most → a.spaceOccupied ≤ most
  offset_le : a.offset ≤ a.pageSize
  pageSize_le : a.pageSize ≤ a.spaceOccupied
  inUse : a.bytesInUse = a.store.capacities.dropLast.sum + a.offset
  inUse_le : a.bytesInUse ≤ a.spaceOccupied
  capacity : ∀ (i : Nat) (page : Page), a.store.pages[i]? = some page →
    page.capacity = a.config.pageSize ∨ a.config.pageSize < page.capacity ∧
      servedFrom i (callAll calls (.empty a.config)).1 = [page.capacity]

namespace Arena

variable {a b : Arena} {calls more : List Call}

theorem empty_madeBy (config : Config) : (empty config).MadeBy [] := ⟨List.not_mem_nil, rfl⟩

theorem MadeBy.then (made : a.MadeBy calls) (positive : .reserve 0 ∉ more)
    (store : b.store = (callAll more a.store).2) : b.MadeBy (calls ++ more) := by
  have config : b.config = a.config := by
    rw [Arena.config, store]
    exact callAll_config more a.store
  refine ⟨by simp [made.positive, positive], ?_⟩
  rw [config, callAll_append, store, ← made.store]

theorem MadeBy.counted (made : a.MadeBy calls) :
    a.store.Tracks (callAll calls (.empty a.config)).1 ∧
      a.store.Counted (callAll calls (.empty a.config)).1 := by
  have tracks := ((empty_tracks a.config).callAll calls).1
  have counted := ((empty_counted a.config).callAll (empty_tracks a.config) made.positive).1
  rw [List.nil_append, ← made.store] at tracks counted
  exact ⟨tracks, counted⟩

theorem MadeBy.counts (made : a.MadeBy calls) : a.Counts calls := by
  obtain ⟨_, counted⟩ := made.counted
  obtain ⟨size, inUse⟩ := bytesInUse_eq counted.reserved
  exact ⟨counted.reserved, counted.ceiling, counted.offset_le, size, inUse, counted.inUse_le,
    fun i page found => (counted.pages i page found).size⟩

end Arena

namespace Command

/-- Answering the configuration changes nothing. -/
theorem run_config (r : Registry T) (s : Names × Arena) :
    Command.config.run r s = (.ok (.config s.2.config), s) := rfl

end Command

/-- A statement reaches the arena through calls alone. -/
theorem Statement.calls (r : Registry T) (statement : Statement) (s : Names × Arena) :
    ∃ cs : List Call, .reserve 0 ∉ cs ∧
      (statement.run r s).2.2.store = (callAll cs s.2.store).2 := by
  by_cases config : statement.command = .config
  · refine ⟨[], List.not_mem_nil, ?_⟩
    unfold Statement.run
    rw [config, Step.bind_ok (Command.run_config r s)]
    cases statement.keepAs <;> rfl
  · exact (ByCalls.statement r config).calls s

namespace Session

/-- Where the requests lead, those that fail among them. -/
def after (s : Session T) : List Request → Session T
  | [] => s
  | r :: rest => ((s.step r).2).after rest

/-- Every arena of the session comes from calls on an empty store. -/
def Made (s : Session T) : Prop :=
  ∀ (i : Nat) (a : Arena), s.arenas[i]? = some a → ∃ calls, a.MadeBy calls

/-- Every arena of the one session is there in the other, after more calls. -/
def Continues (s t : Session T) : Prop :=
  ∀ (i : Nat) (a : Arena), s.arenas[i]? = some a → ∃ (b : Arena) (more : List Call),
    t.arenas[i]? = some b ∧ .reserve 0 ∉ more ∧ b.store = (callAll more a.store).2

omit [KeyMap T] in
theorem Continues.refl (s : Session T) : s.Continues s :=
  fun _ a found => ⟨a, [], found, List.not_mem_nil, rfl⟩

omit [KeyMap T] in
theorem Continues.trans {s t u : Session T} (first : s.Continues t) (second : t.Continues u) :
    s.Continues u := by
  intro i a found
  obtain ⟨b, more, found', positive, store⟩ := first i a found
  obtain ⟨c, more', found'', positive', store'⟩ := second i b found'
  refine ⟨c, more ++ more', found'', by simp [positive, positive'], ?_⟩
  rw [store', store, callAll_append]

/-- A request leaves the session, opens an empty arena or changes one by calls. -/
theorem step_cases (s : Session T) (r : Request) :
    (s.step r).2 = s ∨
    (∃ config, (s.step r).2 = { s with arenas := s.arenas.push (.empty config) }) ∨
    ∃ a b names, ∃ more : List Call, s.arenas[r.arena]? = some a ∧ .reserve 0 ∉ more ∧
      b.store = (callAll more a.store).2 ∧
      (s.step r).2 = { s with arenas := s.arenas.setIfInBounds r.arena b, names } := by
  obtain ⟨number, action⟩ := r
  unfold step
  dsimp only
  cases found : s.arenas[number]? with
  | none => exact .inl rfl
  | some a =>
    cases action with
    | newArena config =>
      dsimp only
      cases valid : config.validate with
      | error e => exact .inl (by simp [Arena.ofConfig, valid, bind, Except.bind])
      | ok =>
        exact .inr (.inl ⟨config, by simp [Arena.ofConfig, valid, bind, Except.bind]⟩)
    | statement statement =>
      obtain ⟨more, positive, store⟩ := statement.calls s.registry (s.names, a)
      exact .inr (.inr ⟨a, _, _, more, rfl, positive, store, rfl⟩)

theorem step_continues (s : Session T) (r : Request) : s.Continues (s.step r).2 := by
  rcases step_cases s r with
    same | ⟨config, opened⟩ | ⟨a, b, names, more, at_r, positive, store, set⟩
  · rw [same]
    exact .refl s
  · rw [opened]
    intro i a found
    have bound := (Array.getElem?_eq_some_iff.mp found).1
    refine ⟨a, [], ?_, List.not_mem_nil, rfl⟩
    rw [Array.getElem?_push, if_neg (by omega), found]
  · rw [set]
    intro i a' found
    have bound := (Array.getElem?_eq_some_iff.mp found).1
    by_cases here : r.arena = i
    · subst here
      obtain rfl : a = a' := Option.some.inj (at_r.symm.trans found)
      exact ⟨b, more, by simp [bound], positive, store⟩
    · exact ⟨a', [], by simp [here, found], List.not_mem_nil, rfl⟩

theorem Made.step {s : Session T} (made : s.Made) (r : Request) : (s.step r).2.Made := by
  rcases step_cases s r with
    same | ⟨config, opened⟩ | ⟨a, b, names, more, at_r, positive, store, set⟩
  · rw [same]
    exact made
  · rw [opened]
    intro i a found
    rw [Array.getElem?_push] at found
    split at found
    · cases found
      exact ⟨[], Arena.empty_madeBy config⟩
    · exact made i a found
  · rw [set]
    intro i b' found
    by_cases here : r.arena = i
    · subst here
      obtain ⟨bound, _⟩ := Array.getElem?_eq_some_iff.mp at_r
      obtain rfl : b = b' := by simpa [bound] using found
      obtain ⟨calls, by_calls⟩ := made _ a at_r
      exact ⟨calls ++ more, by_calls.then positive store⟩
    · exact made i b' (by simpa [Array.getElem?_setIfInBounds, here] using found)

/-- Whatever is asked, every arena comes from calls on an empty store. -/
theorem Made.after {s : Session T} (made : s.Made) (requests : List Request) :
    (s.after requests).Made := by
  induction requests generalizing s with
  | nil => exact made
  | cons r rest ih => exact ih (made.step r)

/-- Whatever is asked, every arena goes on from where it was. -/
theorem after_continues (s : Session T) (requests : List Request) :
    s.Continues (s.after requests) := by
  induction requests generalizing s with
  | nil => exact .refl s
  | cons r rest ih => exact (step_continues s r).trans (ih _)

omit [KeyMap T] in
theorem made_single (config : Config) (names : Names) (registry : Registry T) :
    Made ⟨#[.empty config], names, registry⟩ := by
  intro i a found
  cases i with
  | zero =>
    obtain rfl : Arena.empty config = a := Option.some.inj found
    exact ⟨[], Arena.empty_madeBy config⟩
  | succ i => cases found

/-- The pages of every arena stay within what their addresses reach. -/
theorem bounded_after (config : Config) (names : Names) (registry : Registry T)
    {requests : List Request} {i : Nat} {a : Arena}
    (found : (Session.after ⟨#[.empty config], names, registry⟩ requests).arenas[i]? = some a) :
    a.store.Bounded := by
  obtain ⟨calls, made⟩ := (made_single config names registry).after requests i a found
  obtain ⟨tracks, _⟩ := made.counted
  exact tracks.bounded

/-- Over any requests to a new arena and those opened later, the counters of an arena say what its
pages are, and none of them falls. -/
theorem counters_after (config : Config) (names : Names) (registry : Registry T)
    (before later : List Request) :
    let s := Session.after ⟨#[.empty config], names, registry⟩ before
    (∀ (i : Nat) (a : Arena), s.arenas[i]? = some a →
      ∃ (b : Arena) (calls more : List Call), (s.after later).arenas[i]? = some b ∧
        a.MadeBy calls ∧ b.MadeBy (calls ++ more) ∧ a.Counts calls ∧ b.Counts (calls ++ more) ∧
        b.config = a.config ∧ a.pageCount ≤ b.pageCount ∧ a.spaceOccupied ≤ b.spaceOccupied ∧
        a.bytesInUse ≤ b.bytesInUse) ∧
    ∀ (u : PageStore) (len : Nat),
      (u.reserve len).2.pageCount = u.pageCount ∧ (u.reserve len).2.reserved = u.reserved ∨
        (u.pages = #[] ∨ u.remaining < len) ∧
          (u.reserve len).2.pageCount = u.pageCount + 1 ∧
          (u.reserve len).2.reserved = u.reserved + max len u.config.pageSize := by
  intro s
  refine ⟨?_, reserve_opens⟩
  intro i a found
  obtain ⟨calls, made⟩ := (made_single config names registry).after before i a found
  obtain ⟨b, more, found', positive, store⟩ := after_continues s later i a found
  have made' := made.then positive store
  obtain ⟨tracks, counted⟩ := made.counted
  obtain ⟨_, grows⟩ := counted.callAll tracks positive
  rw [← store] at grows
  exact ⟨b, calls, more, found', made, made', made.counts, made'.counts, grows.config,
    grows.pages, grows.reserved, grows.inUse⟩

end Session
end ValueArena
