import ValueArena.Proofs.Run.Program

/-!
Views never answer from what is past. Whatever a program has done through whichever views, a read
through one that it kept answers as one through a view that is opened at that moment.
-/
namespace ValueArena

variable {T : Type → Type → Type} [KeyMap T]

/-- Two views of lists answer every read alike. -/
structure ListView.Agrees (a : Arena) (v u : ListView) : Prop where
  item : ∀ index, (ListView.item a index v).1 = (ListView.item a index u).1
  get : ∀ index, (ListView.get a index v).1 = (ListView.get a index u).1
  items : (ListView.allItems a v).1 = (ListView.allItems a u).1
  values : (ListView.allValues a v).1 = (ListView.allValues a u).1
  indexOfText : ∀ text, (ListView.indexOfText a text v).1 = (ListView.indexOfText a text u).1
  indexOfNumber : ∀ number,
    (ListView.indexOfNumber a number v).1 = (ListView.indexOfNumber a number u).1
  toText : (ListView.toText a v).1 = (ListView.toText a u).1

/-- Two views of objects answer every read alike, and so do the views of their lists. -/
structure ObjectView.Agrees (a : Arena) (o u : ObjectView) : Prop where
  keys : o.keys.Agrees a u.keys
  values : o.values.Agrees a u.values
  indexOf : ∀ key, (ObjectView.indexOf a key o).1 = (ObjectView.indexOf a key u).1
  hasKey : ∀ key, (ObjectView.hasKey a key o).1 = (ObjectView.hasKey a key u).1
  slot : ∀ key, (ObjectView.slot a key o).1 = (ObjectView.slot a key u).1
  get : ∀ key, (ObjectView.get a key o).1 = (ObjectView.get a key u).1

variable {a : Arena} {p : Picture}

namespace ListView

variable {v u w : ListView}

/-- Reads depend on nothing but what a view is brought up to. -/
theorem agrees_of_fresh (left : ensureFresh a v = (.ok (), w))
    (right : ensureFresh a u = (.ok (), w)) : v.Agrees a u := by
  have same : ∀ {α : Type} (f : ListView → Except MemoryError α),
      ((ensureFresh a >>= fun _ => Step.view f) v).1 =
        ((ensureFresh a >>= fun _ => Step.view f) u).1 := by
    intro α f
    rw [read_apply left, read_apply right]
  constructor
  · exact fun index => same _
  · exact fun index => same _
  · exact same _
  · exact same _
  · exact fun text => same _
  · exact fun number => same _
  · exact same _

/-- The header of a view opens again. -/
theorem reopened (shows : a.Shows p) (sees : p.Sees v) :
    ofHandle a v.handle = .ok (p.view v.header) ∧ p.Sees (p.view v.header) := by
  obtain ⟨first, last, count, found⟩ := sees.header
  have required := Heap.require_handleAt (shows.addr_ne_null found) found
  have named : p.heap.handleAt v.header.addr = .stored v.header := sees.named
  have header := named
  rw [Heap.handleAt_of_some found] at header
  rw [named, Handle.stored.inj header] at required
  obtain ⟨_, _, opened, sees_view⟩ := ofHandle_of_require shows sees.named required
  exact ⟨opened, sees_view⟩

theorem agrees_reopened (shows : a.Shows p) (sees : p.Sees v)
    (few : p.writes < 0x10000000000000000) : v.Agrees a (p.view v.header) := by
  obtain ⟨_, sees_view⟩ := reopened shows sees
  exact agrees_of_fresh (ensureFresh_ok shows sees few) (ensureFresh_ok shows sees_view few)

end ListView

namespace ObjectView

variable {o : ObjectView}

/-- What a view of an object answers, its views of the two lists answer. -/
theorem agrees_of_lists {u : ObjectView} (keys : o.keys.Agrees a u.keys)
    (values : o.values.Agrees a u.values) : o.Agrees a u := by
  have position : ∀ key, (ObjectView.position a key o).1 = (ObjectView.position a key u).1 := by
    intro key
    rw [(position_apply a key o).1, (position_apply a key u).1, keys.indexOfText]
  constructor
  · exact keys
  · exact values
  · exact keys.indexOfText
  · intro key
    rw [hasKey_apply, hasKey_apply, keys.indexOfText]
  · intro key
    simp only [slot_apply, position, values.item]
  · intro key
    simp only [get_apply, position, values.get]

/-- The header of a view opens again, with the same two lists. -/
theorem reopened (shows : a.Shows p) (sees : p.SeesObject o) :
    ofHandle a o.handle = .ok (p.objectView o.header o.keys.header o.values.header) := by
  have required := Heap.require_handleAt (shows.addr_ne_null sees.cell) sees.cell
  have named : p.heap.handleAt o.header.addr = .stored o.header := sees.named
  have header := named
  rw [Heap.handleAt_of_some sees.cell] at header
  rw [named, Handle.stored.inj header] at required
  obtain ⟨keys, values, opened, sees_view⟩ := ofHandle_of_require shows sees.named required
  have cells := Option.some.inj (sees_view.cell.symm.trans sees.cell)
  injection cells with same_keys same_values
  have keys_eq := sees_view.keys.named.eq_of_addr sees.keys.named same_keys
  have values_eq := sees_view.values.named.eq_of_addr sees.values.named same_values
  rw [opened]
  exact congrArg Except.ok (congrArg₂ (p.objectView o.header) keys_eq values_eq)

/-- A read through a view that is kept answers as one through a view that is opened right then. -/
theorem agrees_reopened (shows : a.Shows p) (sees : p.SeesObject o)
    (few : p.writes < 0x10000000000000000) :
    o.Agrees a (p.objectView o.header o.keys.header o.values.header) :=
  agrees_of_lists (ListView.agrees_reopened shows sees.keys few)
    (ListView.agrees_reopened shows sees.values few)

end ObjectView

namespace Command

variable {n : Names}

theorem runOnList_append {name : String} {command : ListCommand} {content : HandleArg}
    {v : ListView} {h : Handle} (form : appended? command = some content)
    (view : n.lists.find? name = some v) (given : content.value? n = some h) :
    runOnList name command (n, a) =
      (do return Answer.handle (← changingList name (ListView.append h)) : CommandStep Answer)
        (n, a) := by
  have named : listNamed name (n, a) = (.ok v, (n, a)) := by
    simp only [listNamed, Step.view_apply, view]
  cases command with
  | append argument =>
    cases form
    rcases handleOf_cases content n a with ⟨g, same, resolved⟩ | ⟨e, unbound, _⟩
    · rw [given] at same
      cases same
      apply (Step.bind_ok named).trans
      exact Step.bind_ok resolved
    · rw [given] at unbound
      cases unbound
  | appendEmpty =>
    cases form
    cases given
    rfl
  | _ => cases form

/-- An append that succeeds has found its list and its content. -/
theorem append_given (shows : a.Shows p) (names : n.Fits p) (r : Registry T) {name : String}
    {command : ListCommand} {content : HandleArg} (form : appended? command = some content)
    {item : Handle} (done : ((Command.onList name command).run r (n, a)).1 = .ok (.handle item)) :
    ∃ v h, n.lists.find? name = some v ∧ content.value? n = some h := by
  obtain ⟨q, changes, advances⟩ := leads_run r (c := .onList name command) shows names rfl
  have performs := advances.performs
  rw [done] at performs
  cases performs with
  | quiet _ _ reads =>
    cases command with
    | append => cases reads
    | appendEmpty => cases reads
    | _ => cases form
  | append _ _ argument v h _ _ form' view given =>
    rw [form] at form'
    cases form'
    exact ⟨v, h, view, given⟩

/-- An append leaves the view as opening the list would give it. -/
theorem append_reopened (shows : a.Shows p) (names : n.Fits p)
    (few : p.writes < 0x10000000000000000) (r : Registry T) {name : String} {command : ListCommand}
    {content : HandleArg} (form : appended? command = some content) {item : Handle}
    (done : ((Command.onList name command).run r (n, a)).1 = .ok (.handle item)) :
    ∃ u, ((Command.onList name command).run r (n, a)).2.1.lists.find? name = some u ∧
      ListView.ofHandle ((Command.onList name command).run r (n, a)).2.2 u.handle = .ok u := by
  obtain ⟨v, h, view, given⟩ := append_given shows names r form done
  have ran : (Command.onList name command).run r (n, a) = _ := runOnList_append form view given
  rcases ListView.append_cases shows (names.lists name v view)
      (HandleArg.issued names shows.formed.null given) with
    ⟨x, y, b, q, failed, _⟩ | ⟨new, kept, b, q, u, appended, appends, sees_u, header, now⟩
  · have refused := Step.bind_pure_apply (g := Answer.handle) (changingList_apply view failed)
    rw [ran, refused] at done
    cases done
  · have added := Step.bind_pure_apply (g := Answer.handle) (changingList_apply view appended)
    rw [ran, added]
    obtain ⟨opened, _⟩ := ListView.reopened appends.shows sees_u
    rw [header, ← now (ListView.current_of_sees shows (names.lists name v view) few)] at opened
    exact ⟨u, by rw [Table.find?_insert, if_pos rfl], opened⟩

end Command

namespace Statement

/-- In a state every view that is kept answers as one that is opened right then, and an append
leaves its view as opening the list anew would give it. -/
structure KeepsCoherent (r : Registry T) (state : Names × Arena) : Prop where
  lists : ∀ name v, state.1.lists.find? name = some v →
    ∃ u, ListView.ofHandle state.2 v.handle = .ok u ∧ v.Agrees state.2 u
  objects : ∀ name o, state.1.objects.find? name = some o →
    ∃ u, ObjectView.ofHandle state.2 o.handle = .ok u ∧ o.Agrees state.2 u
  appends : ∀ name command content item, Command.appended? command = some content →
    ((Command.onList name command).run r state).1 = .ok (.handle item) →
    ∃ u, ((Command.onList name command).run r state).2.1.lists.find? name = some u ∧
      ListView.ofHandle ((Command.onList name command).run r state).2.2 u.handle = .ok u

theorem keepsCoherent_after (r : Registry T) (config : Config) (program : List Statement)
    (allowed : ∀ s ∈ program, s.command.isPublic = true)
    (few : listWrites r program (.empty, .empty config) < 0x10000000000000000) :
    KeepsCoherent r (after r config program) := by
  obtain ⟨p, shows, names, writes⟩ := after_shows r config allowed
  rw [← writes] at few
  constructor
  · intro name v found
    have sees := names.lists name v found
    exact ⟨_, (ListView.reopened shows sees).1, ListView.agrees_reopened shows sees few⟩
  · intro name o found
    have sees := names.objects name o found
    exact ⟨_, ObjectView.reopened shows sees, ObjectView.agrees_reopened shows sees few⟩
  · intro name command content item form done
    exact Command.append_reopened shows names few r form done

theorem keepsCoherent_after_sample :
    listWrites .empty sample (.empty, .empty ⟨64, none⟩) = 4 ∧
      KeepsCoherent .empty (after .empty ⟨64, none⟩ sample) := by
  have writes : listWrites .empty sample (.empty, .empty ⟨64, none⟩) = 4 := by decide +kernel
  exact ⟨writes, keepsCoherent_after .empty ⟨64, none⟩ sample (by decide) (by rw [writes]; decide)⟩

end Statement
end ValueArena
