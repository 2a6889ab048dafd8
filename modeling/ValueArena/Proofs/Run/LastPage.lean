import ValueArena.Proofs.Run.Objects
import ValueArena.Proofs.View.Exact

/-!
The end of the page numbers. The check before a new key counts bytes and not pages, so a key that
has passed it can find no page for its slot. A program of creations alone gets there.
-/
namespace ValueArena

variable {T : Type → Type → Type} [KeyMap T]

namespace ObjectView

variable {a : Arena} {p : Picture} {o : ObjectView} {key : String}

/-- A new key that passes the check stays without its slot if the store then has no page for it. -/
theorem addKey_alone (shows : a.Shows p) (sees : p.SeesObject o)
    (fits : a.store.wouldFit (keyLengths key) = true) {room : PageStore.Room}
    (served : a.store.room.reserveAll [5 + (Utf8.encode key).length, Arena.itemLength] = some room)
    (refused : room.reserve Arena.itemLength = none)
    (short : (p.lists o.keys.header.addr).length < 0xFFFFFFFF) :
    ∃ n m u b q, addKey key (o, a) = (.error (.allocationFailed n m), (u, b)) ∧ b.Shows q ∧
      KeyAlone p o key q := by
  obtain ⟨name, u, b, q, named, adds, rfl⟩ := addName_served shows sees fits served short
  rcases ListView.append_cases adds.shows adds.sees.values
      (Heap.issued_none adds.shows.formed.null) with
    ⟨n, m, c, t, failed, shows_c, evolves, without⟩ | ⟨_, _, c, t, _, _, slots, _⟩
  · refine ⟨n, m, u, c, t, ?_, shows_c, adds.keyAlone shows sees shows_c evolves without⟩
    rw [addKey_eq]
    exact (Step.bind_ok named).trans (changingValues_apply failed)
  · have given := slots.room
    have lens : Arena.appendLengths .none = [Arena.itemLength] := rfl
    rw [lens, PageStore.Room.reserveAll_single, refused] at given
    cases given

/-- The one list that a new key writes alone is that of the keys: its text and its item were given
out, and the store has no page for the slot. The check has not noticed, as it counts no pages. -/
theorem addKey_alone_iff (shows : a.Shows p) (sees : p.SeesObject o)
    (short : (p.lists o.keys.header.addr).length < 0xFFFFFFFF)
    (le : (p.lists o.values.header.addr).length ≤ (p.lists o.keys.header.addr).length) :
    (addKey key (o, a)).2.2.generation = a.generation + 1 ↔
      a.store.wouldFit (keyLengths key) = true ∧
        ∃ room, a.store.room.reserveAll [5 + (Utf8.encode key).length, Arena.itemLength] =
          some room ∧ room.reserve Arena.itemLength = none := by
  have written : ∀ {b : Arena} {q : Picture} {changes : List Change}, b.Shows q →
      p.Evolves changes q → b.generation = a.generation + UInt64.ofNat changes.length := by
    intro b q changes shows_b evolves
    rw [shows_b.generation, evolves.writes, UInt64.ofNat_add, shows.generation]
  constructor
  · intro once
    rw [addKey_eq] at once
    rcases addName_cases shows sees key with
      ⟨n, m, b, q, failed, shows_b, evolves⟩ | ⟨name, u, b, q, named, adds⟩
    · rw [Step.bind_error failed] at once
      have never := (written shows_b evolves).symm.trans once
      exact absurd ((UInt64.add_right_inj a.generation).mp never) (by decide)
    refine ⟨adds.checked, b.store.room, adds.served, ?_⟩
    obtain ⟨e, _, begun⟩ := adds.entry
    rcases ListView.append_cases adds.shows adds.sees.values
        (Heap.issued_none adds.shows.formed.null) with
      ⟨n, m, c, t, failed, shows_c, evolves, without⟩ | ⟨item, _, c, t, w, slotted, slots, _⟩
    · exact (exhausted_of_lacksRoom adds.shows adds.sees.values.header adds.fits
        (by rw [adds.values, adds.slots_eq shows sees]; omega) without.lacks).reserve
    · have added : changingValues ListView.appendEmpty (u, b) =
          (.ok item, ({ u with values := w }, c)) := changingValues_apply slotted
      rw [Step.bind_ok named, added] at once
      have twice := (written slots.shows (begun.trans slots.evolves)).symm.trans once
      exact absurd ((UInt64.add_right_inj a.generation).mp twice) (by simp)
  · rintro ⟨fits, room, served, refused⟩
    obtain ⟨n, m, u, b, q, failed, shows_b, alone⟩ :=
      addKey_alone shows sees fits served refused short
    obtain ⟨e, _, evolves⟩ := alone.entry
    rw [failed]
    exact written shows_b evolves

end ObjectView

/-- So many pages of 64 bytes, with as much room in the last one. -/
def PageStore.Room.crowded (pages remaining : Nat) : PageStore.Room :=
  ⟨⟨64, none⟩, pages, remaining, 64 * pages⟩

theorem PageStore.Room.reserve_crowded {pages remaining len : Nat} (short : remaining < len)
    (fits : len ≤ 64) (number : pages < 0xFFFFFFFE) :
    (crowded pages remaining).reserve len = some (crowded (pages + 1) (64 - len)) := by
  have page : max len 64 = 64 := Nat.max_eq_right fits
  have bytes : 64 * pages + 64 < 0x10000000000000000 := by omega
  have full : ¬ (0 < pages ∧ len ≤ remaining) := by omega
  have provided : Config.provides ⟨64, none⟩ pages 64 = true := rfl
  simp only [reserve, crowded, full, if_false, page, open?]
  rw [if_pos ⟨by simp [canReserve, Config.allows, bytes], by decide, number, provided⟩]
  rfl

/-- Where the page numbers end nothing more is given out than the last page holds. -/
theorem PageStore.Room.reserve_last {pages remaining len : Nat} (last : 0xFFFFFFFE ≤ pages)
    (short : remaining < len) : (crowded pages remaining).reserve len = none := by
  have denied : Config.denies ⟨64, none⟩ len pages = true := by simp [Config.denies, last]
  exact Exhausted.reserve ⟨denied, short⟩

namespace Statement

/-- An object without keys is known by its name, and the arena has this room left. -/
structure Bare (name : String) (room : PageStore.Room) (state : Names × Arena) : Prop where
  room : state.2.store.room = room
  object : ∃ p o, state.2.Shows p ∧ state.1.Fits p ∧ state.1.objects.find? name = some o ∧
    p.lists o.keys.header.addr = [] ∧ p.lists o.values.header.addr = []

variable {name : String} {room room' : PageStore.Room} {state : Names × Arena}

/-- A creation for which there is room takes that room, and leaves the object as it is. -/
theorem Bare.create (r : Registry T) (bare : Bare name room state) (content : Content)
    (served : room.reserve (Cell.plain content).bytes.length = some room') :
    Bare name room' ((Statement.mk none (.create content)).run r state).2 := by
  obtain ⟨n, a⟩ := state
  obtain ⟨rfl, p, o, shows, names, view, keys, values⟩ := bare
  obtain ⟨h, b, made, adds, left⟩ :=
    Arena.adds_of_served (Arena.create_cases shows.holds.bounded content) served
  obtain ⟨shows_b, evolves⟩ := shows.create (adds.creates shows.holds)
  have kept : Command.onArena (Arena.create content) (n, a) = (.ok h, (n, b)) := by
    apply Step.onSecond_apply
    simp only [Step.mapError, made]
    rfl
  have ran : (Command.create content).run r (n, a) = (.ok (.handle h), (n, b)) :=
    Step.bind_pure_apply kept
  rw [run_unnamed, ran]
  refine ⟨left, _, o, shows_b, names.evolves evolves shows.formed shows_b.formed.null, view, ?_, ?_⟩
  · rw [evolves.lists_eq, keys]
  · rw [evolves.lists_eq, values]

/-- A text of so many letters. -/
def letters (count : Nat) : Content := .string (String.ofList (List.replicate count 'x'))

/-- Texts that fill a page each. -/
def filler (count : Nat) : List Statement := List.replicate count ⟨none, .create (letters 59)⟩

theorem Bare.fill (r : Registry T) (count : Nat) {pages remaining : Nat}
    (bare : Bare name (.crowded pages remaining) state) (short : remaining < 25)
    (number : pages + count ≤ 0xFFFFFFFE) :
    ∃ remaining < 25, Bare name (.crowded (pages + count) remaining)
      (runAll r (filler count) state).2 := by
  have length : (Cell.plain (letters 59)).bytes.length = 64 := by decide +kernel
  induction count generalizing pages remaining state with
  | zero => exact ⟨remaining, short, bare⟩
  | succ count ih =>
    have full := bare.create r (letters 59) (by
      rw [length]
      exact PageStore.Room.reserve_crowded (by omega) (by decide) (by omega))
    have rest := ih full (by decide) (by omega)
    rw [Nat.add_assoc, Nat.add_comm 1 count] at rest
    exact rest

/-- An object, texts that fill pages, and one that leaves 39 bytes of the last page. -/
def crowd (count : Nat) : List Statement :=
  [⟨some "object", .objectCreate⟩] ++ filler count ++ [⟨none, .create (letters 20)⟩]

def newKey : Statement := ⟨none, .onObject "object" (.addKey "k")⟩

/-- How many keys and slots the object of this name has. -/
def counts (name : String) (state : Names × Arena) :
    Option (Except MemoryError Nat × Except MemoryError Nat) :=
  (state.1.objects.find? name).map fun o =>
    ((o.size state.2).map UInt32.toNat, (o.values.count state.2).map UInt32.toNat)

theorem bare_of_counts {p : Picture} (shows : state.2.Shows p) (names : state.1.Fits p)
    (few : p.writes < 0x10000000000000000) (seen : counts name state = some (.ok 0, .ok 0)) :
    Bare name state.2.store.room state := by
  obtain ⟨o, view, zero⟩ := Option.map_eq_some_iff.mp seen
  have sees := names.objects name o view
  have keys : (o.size state.2).map UInt32.toNat = .ok (p.lists o.keys.header.addr).length :=
    (ListView.reads_of_sees shows sees.keys few).count
  have values := (ListView.reads_of_sees shows sees.values few).count
  rw [keys, values, Prod.mk.injEq, Except.ok.injEq, Except.ok.injEq] at zero
  exact ⟨rfl, p, o, shows, names, view, List.length_eq_zero_iff.mp zero.1,
    List.length_eq_zero_iff.mp zero.2⟩

theorem bare_object : Bare "object" (.crowded 1 5)
    (after .empty ⟨64, none⟩ [⟨some "object", .objectCreate⟩]) := by
  have allowed : ∀ s ∈ [Statement.mk (some "object") .objectCreate],
      s.command.isPublic = true := by decide
  have unwritten : listWrites .empty [⟨some "object", .objectCreate⟩]
      (.empty, .empty ⟨64, none⟩) = 0 := by decide +kernel
  have room : (after .empty ⟨64, none⟩ [⟨some "object", .objectCreate⟩]).2.store.room =
      .crowded 1 5 := by decide +kernel
  obtain ⟨p, shows, names, writes⟩ := after_shows .empty ⟨64, none⟩ allowed
  rw [← room]
  exact bare_of_counts shows names (by rw [writes, unwritten]; decide) (by decide +kernel)

theorem bare_crowd (count : Nat) (number : 1 + count < 0xFFFFFFFE) :
    Bare "object" (.crowded (1 + count + 1) 39) (after .empty ⟨64, none⟩ (crowd count)) := by
  obtain ⟨remaining, short, full⟩ := bare_object.fill .empty count (by decide) (Nat.le_of_lt number)
  have length : (Cell.plain (letters 20)).bytes.length = 25 := by decide +kernel
  have last := full.create .empty (letters 20) (by
    rw [length]
    exact PageStore.Room.reserve_crowded short (by decide) number)
  rw [crowd, after_concat, after, runAll_append]
  exact last

/-- A key for which 6 and 17 bytes are there, but not the 17 of its slot. -/
theorem Bare.newKey_alone (r : Registry T) (bare : Bare "object" (.crowded 0xFFFFFFFE 39) state) :
    ∃ x n m, (newKey.run r state).1 = .error (.memory (.allocationFailed n m)) ∧
      (newKey.run r state).2.2.Associates x ["k"] [] := by
  obtain ⟨n, a⟩ := state
  obtain ⟨room, p, o, shows, names, view, keys, values⟩ := bare
  have sees := names.objects "object" o view
  have differ := (shows.formed.object _ _ _ sees.cell).2.2
  have fits : a.store.room.wouldFit (ObjectView.keyLengths "k") = true := by
    rw [room]
    decide +kernel
  have served : a.store.room.reserveAll [5 + (Utf8.encode "k").length, Arena.itemLength] =
      some (.crowded 0xFFFFFFFE 16) := by
    rw [room]
    decide +kernel
  obtain ⟨i, j, u, b, q, failed, shows_b, alone⟩ := ObjectView.addKey_alone shows sees fits served
    (PageStore.Room.reserve_last (by decide) (by decide)) (by rw [keys]; decide)
  obtain ⟨e, entry, evolves⟩ := alone.entry
  have key_added : q.lists o.keys.header.addr = p.lists o.keys.header.addr ++ [e] := by
    rw [evolves.lists]
    exact on_append_self _ _ e
  have same : q.lists o.values.header.addr = p.lists o.values.header.addr := by
    rw [evolves.lists]
    exact on_append_other differ.symm _ e
  have keyed : p.Keyed o.keys.header.addr o.values.header.addr [] :=
    ⟨by rw [keys]; rfl, by rw [values]; exact Nat.le_refl 0, Nat.zero_le _⟩
  have more := (alone.room (Nat.le_of_eq (by rw [keys, values]))).2
  have stands := shows_b.associates (evolves.grows.kept sees.cell rfl)
    (keyed.addAlone evolves entry.text key_added same more)
  rw [same, values] at stands
  have ran : newKey.run r (n, a) = _ := (congrFun (run_unnamed r _) (n, a)).trans
    (Step.bind_pure_apply (Command.changingObject_apply view failed))
  rw [ran]
  exact ⟨_, i, j, rfl, stands⟩

/-- Until the key is added there are only creations. -/
theorem command_of_mem {count : Nat} {s : Statement} (member : s ∈ crowd count ++ [newKey]) :
    s.command = .objectCreate ∨ (∃ content, s.command = .create content) ∨
      s.command = .onObject "object" (.addKey "k") := by
  simp only [crowd, filler, List.mem_append, List.mem_singleton, List.mem_replicate] at member
  rcases member with ((rfl | ⟨_, rfl⟩) | rfl) | rfl
  · exact .inl rfl
  · exact .inr (.inl ⟨_, rfl⟩)
  · exact .inr (.inl ⟨_, rfl⟩)
  · exact .inr (.inr rfl)

theorem isPublic_of_mem (count : Nat) {s : Statement} (member : s ∈ crowd count ++ [newKey]) :
    s.command.isPublic = true := by
  rcases command_of_mem member with eq | ⟨_, eq⟩ | eq <;> rw [eq] <;> rfl

theorem spares_of_mem {count : Nat} {s : Statement} (member : s ∈ crowd count ++ [newKey])
    (x : Addr) (state : Names × Arena) : s.command.Spares x state := by
  rcases command_of_mem member with eq | ⟨_, eq⟩ | eq <;> rw [eq] <;>
    exact Command.spares_of_idle x rfl rfl

/-- After a program that spares the object at `x`, adding a key to it fails; and yet it has the key
then, with no slot for it. -/
structure EndsAlone (config : Config) (x : Addr) (program : List Statement) : Prop where
  allowed : ∀ s ∈ program ++ [newKey], s.command.isPublic = true
  few : listWrites .empty (program ++ [newKey]) (.empty, .empty config) < 0x10000000000000000
  spared : Throughout .empty (fun state s => s.command.Spares x state) (program ++ [newKey])
    (.empty, .empty config)
  failed : ∃ n m, (newKey.run .empty (after .empty config program)).1 =
    .error (.memory (.allocationFailed n m))
  stands : (after .empty config (program ++ [newKey])).2.Associates x ["k"] []

theorem endsAlone_of_count {count : Nat} (last : 1 + count + 1 = 0xFFFFFFFE) :
    ∃ x, EndsAlone ⟨64, none⟩ x (crowd count) := by
  have bare := bare_crowd count (by omega)
  rw [last] at bare
  obtain ⟨x, n, m, failed, stands⟩ := bare.newKey_alone .empty
  have writes := listWrites_le .empty (fun s => isPublic_of_mem count)
    (Arena.empty_shows ⟨64, none⟩) (Names.empty_fits _)
  have length : (crowd count ++ [newKey]).length = count + 3 := by
    simp only [crowd, filler, List.length_append, List.length_replicate, List.length_singleton]
    omega
  refine ⟨x, fun s => isPublic_of_mem count, by omega,
    throughout_of_forall .empty (fun s member => spares_of_mem member _) _, ⟨n, m, failed⟩, ?_⟩
  rw [after_concat]
  exact stands

/-- The lists of an object that is changed by nothing but a new key come out of step. -/
theorem endsAlone_crowd : ∃ x, EndsAlone ⟨64, none⟩ x (crowd 0xFFFFFFFC) :=
  endsAlone_of_count (by decide)

/-- A system that refuses the second page brings this about at once. -/
example : counts "object"
    (after .empty { pageSize := 128, maxBytes := none, system := ⟨[(1, 128)]⟩ }
      [⟨some "object", .objectCreate⟩, ⟨none, .create (letters 30)⟩, newKey]) =
        some (.ok 1, .ok 0) := by decide +kernel

end Statement
end ValueArena
