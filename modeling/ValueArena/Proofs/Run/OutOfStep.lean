import ValueArena.Proofs.Run.Objects

/-!
What puts the lists of an object out of step. The views of its keys and values that an object hands
out are views like any other, and an append through one makes that list longer alone. Nothing else
does, unless no page is to be had for a slot.
-/
namespace ValueArena

variable {T : Type → Type → Type} [KeyMap T]

/-- Of two lists of one length, an append puts them out of step exactly if it is to one of them. -/
theorem length_on_append_ne_iff {k v : Addr} (differ : k ≠ v) {es fs : List Entry}
    (equal : es.length = fs.length) (l : Addr) (e : Entry) :
    (Change.on k es (.append l e)).length ≠ (Change.on v fs (.append l e)).length ↔
      l = k ∨ l = v := by
  constructor
  · intro ne
    apply Classical.byContradiction
    intro other
    rw [not_or] at other
    rw [on_append_other (Ne.symm other.1), on_append_other (Ne.symm other.2)] at ne
    exact ne equal
  · rintro (rfl | rfl)
    · rw [on_append_self, on_append_other differ.symm, List.length_append, equal]
      exact Nat.succ_ne_self _
    · rw [on_append_self, on_append_other differ, List.length_append, equal]
      exact (Nat.succ_ne_self _).symm

/-- A key with its slot makes the two lists of an object longer by as much, and leaves those of all
other objects. -/
theorem Heap.Formed.length_on_addKey {heap : Heap} {lists : Addr → List Entry}
    (formed : heap.Formed lists) {x o k v k' v' : Addr} (at_x : heap x = some (.object k v))
    (at_o : heap o = some (.object k' v')) (e f : Entry) :
    ∃ more, ([.append k' e, .append v' f].foldl (Change.on k) (lists k)).length =
        (lists k).length + more ∧
      ([.append k' e, .append v' f].foldl (Change.on v) (lists v)).length =
        (lists v).length + more := by
  obtain ⟨_, _, differ⟩ := formed.object _ _ _ at_x
  simp only [List.foldl_cons, List.foldl_nil]
  rcases formed.object_cases at_x at_o with ⟨_, rfl, rfl⟩ | ⟨_, k_k, k_v, v_k, v_v⟩
  · refine ⟨1, ?_, ?_⟩
    · rw [on_append_self, on_append_other differ, List.length_append, List.length_singleton]
    · rw [on_append_other differ.symm, on_append_self, List.length_append, List.length_singleton]
  · refine ⟨0, ?_, ?_⟩
    · rw [on_append_other k_k, on_append_other k_v, Nat.add_zero]
    · rw [on_append_other v_k, on_append_other v_v, Nat.add_zero]

namespace Arena

/-- The lists of the object at `x` stand for these entries. -/
structure HasEntries (a : Arena) (x : Addr) (keys slots : List Entry) : Prop where
  lists : ∃ keysList valuesList, a.HasLists x keysList valuesList ∧
    a.Represents keysList keys ∧ a.Represents valuesList slots

variable {a : Arena} {p : Picture} {x k v : Addr}

theorem hasEntries_of_cell (shows : a.Shows p) (at_x : p.heap x = some (.object k v)) :
    a.HasEntries x (p.lists k) (p.lists v) := by
  obtain ⟨keys_list, values_list, _⟩ := shows.formed.object _ _ _ at_x
  exact ⟨k, v, (hasLists_iff shows).mpr at_x, shows.represents keys_list,
    shows.represents values_list⟩

end Arena

namespace Command

variable {n m : Names} {a b : Arena} {p q : Picture} {c : Command} {changes : List Change}
  {result : Except Fault Answer} {x k v : Addr}

/-- An append has succeeded through a view of one of these lists. -/
def Extends (n : Names) (keys values : Addr) (c : Command) (result : Except Fault Answer) : Prop :=
  ∃ l item, c.extends? n = some l ∧ (l = keys ∨ l = values) ∧ result = .ok (.handle item)

theorem extends?_of_quiet (quiet : c.writes = false) : c.extends? n = none := by
  cases c with
  | onList name command => cases command <;> first | rfl | cases quiet
  | _ => rfl

theorem Replaces.extends? {target : Handle} {content : HandleArg}
    (replaces : Replaces n a c target content) : c.extends? n = none := by
  cases replaces <;> rfl

theorem not_extends_of_extends?_eq_none (none : c.extends? n = none) :
    ¬ c.Extends n k v result := by
  rintro ⟨l, item, extended, _⟩
  rw [none] at extended
  cases extended

theorem extends_iff_of_handle {l : Addr} (extended : c.extends? n = some l) (item : Handle) :
    c.Extends n k v (.ok (.handle item)) ↔ l = k ∨ l = v := by
  constructor
  · rintro ⟨l', _, extended', which, _⟩
    rw [extended] at extended'
    cases extended'
    exact which
  · exact fun which => ⟨l, item, extended, which, rfl⟩

/-- One command puts two lists of one length out of step exactly if it appends to one of them
through a view. -/
theorem Advances.length_ne_iff (advances : Advances n a p c result m b q changes)
    (shows : a.Shows p) (names : n.Fits p) (at_x : p.heap x = some (.object k v))
    (equal : (p.lists k).length = (p.lists v).length) (room : ¬ b.Exhausted) :
    (q.lists k).length ≠ (q.lists v).length ↔ c.Extends n k v result := by
  obtain ⟨_, _, differ⟩ := shows.formed.object _ _ _ at_x
  have performs := advances.performs
  rw [advances.evolves.lists k, advances.evolves.lists v]
  cases performs with
  | quiet _ _ reads =>
    exact iff_of_false (fun ne => ne equal)
      (not_extends_of_extends?_eq_none (extends?_of_quiet reads))
  | failed _ e => exact iff_of_false (fun ne => ne equal) (by rintro ⟨_, _, _, _, ⟨⟩⟩)
  | replace _ target content h kept replaces =>
    refine iff_of_false (fun ne => ne ?_) (not_extends_of_extends?_eq_none replaces.extends?)
    simpa [Change.on] using equal
  | append name command content u h item kept form view =>
    have extended : extends? n (.onList name command) = some u.header.addr := by
      simp only [extends?, form, view]
      rfl
    rw [extends_iff_of_handle extended]
    exact length_on_append_ne_iff differ equal _ _
  | addKey name key o item e view =>
    obtain ⟨more, longer_k, longer_v⟩ :=
      shows.formed.length_on_addKey at_x (names.objects name o view).cell e ⟨item.addr, .null⟩
    refine iff_of_false (fun ne => ne ?_) (not_extends_of_extends?_eq_none rfl)
    rw [longer_k, longer_v, equal]
  | addKeyAlone name key o fault e view entry without =>
    have sees := names.objects name o view
    rcases shows.formed.object_cases at_x sees.cell with
      ⟨_, same_k, same_v⟩ | ⟨_, k_k, _, v_k, _⟩
    · -- The key of this very object has found no slot, for which a page was lacking.
      rw [← same_k, ← same_v] at equal
      obtain ⟨exhausted, _⟩ := without _ _ (shows.represents sees.keys.header)
        (shows.represents sees.values.header) (Nat.le_of_eq equal.symm)
      exact absurd exhausted room
    · refine iff_of_false (fun ne => ne ?_) (not_extends_of_extends?_eq_none rfl)
      simp only [List.foldl_cons, List.foldl_nil]
      rw [on_append_other k_k, on_append_other v_k, equal]

/-- The object at `x` has a slot for every key, unless no page was to be had for one, and its keys
are strings. Its lists come apart as soon as an append through a view makes one of them longer, and
not before. -/
structure KeepsStep (r : Registry T) (state : Names × Arena) (x : Addr) (keys slots : List Entry) :
    Prop where
  entries : state.2.HasEntries x keys slots
  inStep : state.2.InStep keys.length slots.length
  strings : ∀ e ∈ keys, ∃ h, state.2.decode e.content = .ok h ∧ h.kind = .string
  parts : ∀ c : Command, c.isPublic = true → keys.length = slots.length →
    ¬ (c.run r state).2.2.Exhausted →
    ∃ keysList valuesList keys' slots', state.2.HasLists x keysList valuesList ∧
      (c.run r state).2.2.HasEntries x keys' slots' ∧
      (keys'.length ≠ slots'.length ↔ c.Extends state.1 keysList valuesList (c.run r state).1)

theorem keepsStep_of_keyed (r : Registry T) (shows : a.Shows p) (names : n.Fits p)
    (at_x : p.heap x = some (.object k v)) {keys : List String} (keyed : p.Keyed k v keys) :
    KeepsStep r (n, a) x (p.lists k) (p.lists v) := by
  have length := keyed.texts.length
  constructor
  · exact Arena.hasEntries_of_cell shows at_x
  · rw [length]
    exact keyed.inStep shows
  · intro e member
    obtain ⟨key, found⟩ := keyed.texts.mem member
    exact ⟨_, Arena.decode_of_holds shows.holds found, by rw [Heap.handleAt_of_some found]; rfl⟩
  · intro c allowed equal room
    obtain ⟨q, changes, advances⟩ := leads_run r shows names allowed
    have at_x' := advances.evolves.grows.kept at_x rfl
    exact ⟨k, v, _, _, (Arena.hasLists_iff shows).mpr at_x,
      Arena.hasEntries_of_cell advances.shows at_x',
      advances.length_ne_iff shows names at_x equal room⟩

/-- Every object that a program has spared has its lists in step, until an append parts them. -/
theorem keepsStep_after (r : Registry T) (config : Config) (x : Addr) (program : List Statement)
    (allowed : ∀ s ∈ program, s.command.isPublic = true)
    (few : Statement.listWrites r program (.empty, .empty config) < 0x10000000000000000)
    (spared : Statement.Throughout r (fun state s => s.command.Spares x state) program
      (.empty, .empty config))
    (object : (Statement.after r config program).2.Starts .object x) :
    ∃ keys slots, KeepsStep r (Statement.after r config program) x keys slots := by
  obtain ⟨p, shows, names, _, inStep⟩ := Statement.inStep_after r config x allowed few spared
  obtain ⟨c, found, kind⟩ := (Arena.starts_iff shows.holds).mp object
  obtain ⟨k, v, rfl⟩ := Cell.eq_object_of_kind kind
  obtain ⟨keys, keyed⟩ := inStep k v found
  exact ⟨_, _, keepsStep_of_keyed r shows names found keyed⟩

theorem keepsStep_after_keyedSample : ∃ o keys slots,
    (Statement.after .empty ⟨64, none⟩ keyedSample).1.objects.find? "object" = some o ∧
      KeepsStep .empty (Statement.after .empty ⟨64, none⟩ keyedSample) o.header.addr keys
        slots := by
  have kept : ((Statement.after .empty ⟨64, none⟩ keyedSample).1.objects.find? "object").isSome =
      true := by decide +kernel
  have few : Statement.listWrites .empty keyedSample (.empty, .empty ⟨64, none⟩) = 5 := by
    decide +kernel
  have allowed : ∀ s ∈ keyedSample, s.command.isPublic = true := by decide
  obtain ⟨o, found⟩ := Option.isSome_iff_exists.mp kept
  have idle := @spares_of_idle
  obtain ⟨keys, slots, keeps⟩ := keepsStep_after .empty ⟨64, none⟩ o.header.addr keyedSample
    allowed (by rw [few]; decide)
    ⟨idle _ rfl rfl, idle _ rfl rfl, idle _ rfl rfl, idle _ rfl rfl, idle _ rfl rfl, trivial⟩
    (Statement.starts_of_view .empty ⟨64, none⟩ allowed found)
  exact ⟨o, keys, slots, found, keeps⟩

/-- The view of an object's keys taken for a list of its own: it is appended to, and the item of
its first key is given to the object as a slot. -/
def keysSample : List Statement :=
  [⟨some "object", .objectCreate⟩,
   ⟨none, .onObject "object" (.addKey "key")⟩,
   ⟨some "keys", .onObject "object" .keys⟩,
   ⟨none, .onList "keys" (.append (.immediate 5))⟩,
   ⟨some "item", .onList "keys" (.item 0)⟩,
   ⟨none, .onObject "object" (.setSlot (.named "item") (.immediate 7))⟩]

/-- The lengths of an object's lists and the kind of its first key. -/
def glance (a : Arena) (o : ObjectView) :
    Except MemoryError Nat × Except MemoryError Nat × Except MemoryError Kind :=
  ((o.keys.count a).map UInt32.toNat, (o.values.count a).map UInt32.toNat,
    (ListView.get a 0 o.keys).1.map Handle.kind)

theorem entries_of_glance (shows : a.Shows p) {o : ObjectView} (sees : p.SeesObject o)
    (few : p.writes < 0x10000000000000000) {i j : Nat} {kind : Kind}
    (seen : glance a o = (.ok i, .ok j, .ok kind)) :
    ∃ keys slots, a.HasEntries o.header.addr keys slots ∧ keys.length = i ∧ slots.length = j ∧
      ∃ e ∈ keys, ∃ h, a.decode e.content = .ok h ∧ h.kind = kind := by
  have keys := ListView.reads_of_sees shows sees.keys few
  have values := ListView.reads_of_sees shows sees.values few
  simp only [glance, Prod.mk.injEq, keys.count, values.count, Except.ok.injEq, keys.get 0] at seen
  obtain ⟨length, length', first⟩ := seen
  refine ⟨_, _, Arena.hasEntries_of_cell shows sees.cell, length, length', ?_⟩
  cases at_zero : (p.lists o.keys.header.addr)[0]? with
  | none =>
    rw [at_zero] at first
    cases first
  | some e =>
    have content := shows.formed.content _ _ _ at_zero
    rw [at_zero] at first
    refine ⟨e, List.mem_of_getElem? at_zero, _, ListView.decode_content shows content, ?_⟩
    simpa only [ListView.decode_content shows content, Except.map, Except.ok.injEq] using first

/-- Two keys, of which the first is a number, and one slot. -/
theorem keysSample_outOfStep : (∀ s ∈ keysSample, s.command.isPublic = true) ∧
    ∃ x keys slots, (Statement.after .empty ⟨64, none⟩ keysSample).2.HasEntries x keys slots ∧
      keys.length = 2 ∧ slots.length = 1 ∧ ∃ e ∈ keys, ∃ h,
        (Statement.after .empty ⟨64, none⟩ keysSample).2.decode e.content = .ok h ∧
        h.kind = .double := by
  have allowed : ∀ s ∈ keysSample, s.command.isPublic = true := by decide
  have few : Statement.listWrites .empty keysSample (.empty, .empty ⟨64, none⟩) = 4 := by
    decide +kernel
  have seen : ((Statement.after .empty ⟨64, none⟩ keysSample).1.objects.find? "object").map
      (glance (Statement.after .empty ⟨64, none⟩ keysSample).2) =
        some (.ok 2, .ok 1, .ok .double) := by decide +kernel
  obtain ⟨p, shows, names, writes⟩ := Statement.after_shows .empty ⟨64, none⟩ allowed
  obtain ⟨o, view, answers⟩ := Option.map_eq_some_iff.mp seen
  exact ⟨allowed, _, entries_of_glance shows (names.objects "object" o view)
    (by rw [writes, few]; decide) answers⟩

end Command
end ValueArena
