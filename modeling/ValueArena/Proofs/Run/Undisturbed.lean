import ValueArena.Proofs.Picture.Extension
import ValueArena.Proofs.Run.InPlace
import ValueArena.Proofs.Run.Lockstep
import ValueArena.Proofs.View.Search
import ValueArena.Proofs.View.Text

/-!
What goes on beside the values that are there. Handles, lists and objects of an arena read as before
in every arena whose picture extends its picture.
-/
namespace ValueArena

namespace ListView

/-- What a view remembers, without the date. -/
def undated (v : ListView) : ListView := { v with builtAt := none }

/-- Reads through the view answer the same in both arenas. -/
structure ReadsAlike (v : ListView) (a b : Arena) : Prop where
  count : v.count b = v.count a
  item : ∀ i, (ListView.item b i v).1 = (ListView.item a i v).1
  get : ∀ i, (ListView.get b i v).1 = (ListView.get a i v).1
  items : (ListView.allItems b v).1 = (ListView.allItems a v).1
  values : (ListView.allValues b v).1 = (ListView.allValues a v).1
  indexOfText : ∀ text, (ListView.indexOfText b text v).1 = (ListView.indexOfText a text v).1
  indexOfNumber : ∀ number,
    (ListView.indexOfNumber b number v).1 = (ListView.indexOfNumber a number v).1
  toText : (ListView.toText b v).1 = (ListView.toText a v).1

end ListView

namespace ObjectView

def undated (o : ObjectView) : ObjectView :=
  { o with keys := o.keys.undated, values := o.values.undated }

structure ReadsAlike (o : ObjectView) (a b : Arena) : Prop where
  keys : o.keys.ReadsAlike a b
  values : o.values.ReadsAlike a b
  indexOf : ∀ key, (ObjectView.indexOf b key o).1 = (ObjectView.indexOf a key o).1
  hasKey : ∀ key, (ObjectView.hasKey b key o).1 = (ObjectView.hasKey a key o).1
  slot : ∀ key, (ObjectView.slot b key o).1 = (ObjectView.slot a key o).1
  get : ∀ key, (ObjectView.get b key o).1 = (ObjectView.get a key o).1

end ObjectView

/-- Whatever a program can get hold of in `a` reads in `b` as it did. Views that were kept do so as
long as the count of `writes` has not wrapped around. -/
structure Names.Undisturbed (n : Names) (a b : Arena) (writes : Nat) : Prop where
  handles : ∀ g, n.Gives a g → a.AnswersAlike b g
  lists : ∀ l es, a.Represents l es → b.Represents l es
  objects : ∀ x keys values, a.HasLists x keys values → b.HasLists x keys values
  opened : ∀ g, n.Gives a g →
    (ListView.ofHandle b g).map ListView.undated = (ListView.ofHandle a g).map ListView.undated ∧
    (ObjectView.ofHandle b g).map ObjectView.undated =
      (ObjectView.ofHandle a g).map ObjectView.undated
  views : writes < 0x10000000000000000 → (∀ v, n.HasView v → v.ReadsAlike a b) ∧
    ∀ name o, n.objects.find? name = some o → o.ReadsAlike a b

/-- A sweep meets what it met before and these values, which lie where nothing was. -/
structure Arena.Allocates (a : Arena) (new : List Descriptor) (b : Arena) : Prop where
  vacant : ∀ d ∈ new, a.Vacant d.addr
  apart : (new.map Descriptor.addr).Nodup
  tile : ∀ d, b.Tile d ↔ a.Tile d ∨ d ∈ new

theorem Picture.ExtendsBy.allocates {p q : Picture} {new : List Descriptor}
    (more : p.ExtendsBy new q) {a b : Arena} (shows : a.Shows p) (shows_b : b.Shows q) :
    a.Allocates new b :=
  ⟨fun d member => (Arena.vacant_iff shows.holds).mpr (more.fresh d member), more.apart,
    more.tile_iff shows shows_b⟩

section Extends

variable {a b : Arena} {p q : Picture} (keeps : p.Extends q) (shows : a.Shows p)
  (shows_b : b.Shows q)
include keeps shows shows_b

theorem Arena.answersAlike_of_extends {h : Handle} (issued : p.heap.Issued h) :
    a.AnswersAlike b h := by
  apply answersAlike_of_holds shows.holds shows_b.holds issued
  rcases issued.shape with ⟨v, rfl⟩ | rfl | ⟨x, c, found, rfl⟩
  · exact shows_b.formed.null.trans shows.formed.null.symm
  · exact shows_b.formed.null.trans shows.formed.null.symm
  · rw [Heap.handleAt_of_some found]
    exact (keeps.cells x c found).trans found.symm

namespace ListView

variable {v : ListView} {g : Handle}

theorem view_extends {header : Descriptor} (list : p.heap.IsList header.addr) :
    (q.view header).items = (p.view header).items ∧
      (q.view header).values = (p.view header).values := by
  obtain ⟨items, values⟩ :=
    Picture.handles_eq keeps.grows shows.formed shows_b.formed.null header.addr
  simp only [Picture.view, keeps.lists _ list, items, values, and_self]

theorem undated_view_eq {header : Descriptor} (list : p.heap.IsList header.addr) :
    (q.view header).undated = (p.view header).undated := by
  obtain ⟨items, values⟩ := view_extends keeps shows shows_b list
  rw [undated, items, values]
  rfl

theorem readsAlike_of_extends (list : p.heap.IsList v.header.addr) (current : v.Current a p)
    (current_b : v.Current b q) : v.ReadsAlike a b := by
  have list_b := keeps.grows.isList list
  have fresh := ensureFresh_current shows list current
  have fresh_b := ensureFresh_current shows_b list_b current_b
  obtain ⟨items, values⟩ := view_extends keeps shows shows_b list
  have alike : ∀ g ∈ (p.view v.header).values.toList, a.AnswersAlike b g := by
    intro g member
    simp only [Picture.view, List.mem_map] at member
    obtain ⟨e, _, rfl⟩ := member
    exact Arena.answersAlike_of_extends keeps shows shows_b
      (Heap.issued_handleAt shows.formed.null _)
  have same : ∀ {α : Type} {f g : ListView → Except MemoryError α},
      g (q.view v.header) = f (p.view v.header) →
        ((ensureFresh b >>= fun _ => Step.view g) v).1 =
          ((ensureFresh a >>= fun _ => Step.view f) v).1 := by
    intro α f g eq
    rw [read_apply fresh, read_apply fresh_b]
    exact eq
  constructor
  · obtain ⟨n, loaded, length⟩ := (shows.represents list).count
    obtain ⟨m, loaded_b, length_b⟩ := (shows_b.represents list_b).count
    rw [keeps.lists _ list, ← length] at length_b
    obtain rfl := UInt32.toNat_inj.mp length_b
    exact loaded_b.trans loaded.symm
  · exact fun i => same (by rw [items])
  · exact fun i => same (by rw [values])
  · exact same (by rw [items])
  · exact same (by rw [values])
  · intro text
    refine same ?_
    rw [values]
    exact search_congr (fun g member => hasText_alike (alike g member) text) 0
  · intro number
    refine same ?_
    rw [values]
    exact search_congr (fun g member => hasNumber_alike (alike g member) number) 0
  · refine same ?_
    rw [values, concat_eq, concat_eq, Arena.texts_congr fun g member => (alike g member).text]

/-- A list opens as before. -/
theorem ofHandle_extends (issued : p.heap.Issued g) :
    (ofHandle b g).map undated = (ofHandle a g).map undated := by
  cases required : g.require .list with
  | error e => simp only [ofHandle, required, bind, Except.bind]
  | ok header =>
    have issued_b := issued.grows keeps.grows shows_b.formed.null
    obtain ⟨_, list, opened, _⟩ := ofHandle_of_require shows issued required
    obtain ⟨_, _, opened_b, _⟩ := ofHandle_of_require shows_b issued_b required
    rw [opened, opened_b]
    exact congrArg Except.ok (undated_view_eq keeps shows shows_b list)

end ListView

namespace ObjectView

variable {o : ObjectView} {g : Handle}

omit keeps shows shows_b in
theorem readsAlike_of_lists (keys : o.keys.ReadsAlike a b) (values : o.values.ReadsAlike a b) :
    o.ReadsAlike a b := by
  have position : ∀ key, (ObjectView.position b key o).1 = (ObjectView.position a key o).1 := by
    intro key
    rw [(position_apply b key o).1, (position_apply a key o).1, keys.indexOfText]
  constructor
  · exact keys
  · exact values
  · exact keys.indexOfText
  · intro key
    rw [hasKey_apply, hasKey_apply, keys.indexOfText]
  · intro key
    simp only [slot_apply, position, values.item]
  · intro key
    simp only [get_apply, position, values.get]

/-- An object opens as before. -/
theorem ofHandle_extends (issued : p.heap.Issued g) :
    (ofHandle b g).map undated = (ofHandle a g).map undated := by
  cases required : g.require .object with
  | error e => simp only [ofHandle, required, bind, Except.bind]
  | ok header =>
    have null := shows_b.formed.null
    have issued_b := issued.grows keeps.grows null
    obtain ⟨keys, values, opened, sees⟩ := ofHandle_of_require shows issued required
    obtain ⟨keys', values', opened_b, sees_b⟩ := ofHandle_of_require shows_b issued_b required
    have cell := keeps.cells _ _ sees.cell
    injection Option.some.inj (sees_b.cell.symm.trans cell) with at_keys at_values
    have same_keys :=
      sees_b.keys.named.eq_of_addr (sees.keys.named.grows keeps.grows null) at_keys
    have same_values :=
      sees_b.values.named.eq_of_addr (sees.values.named.grows keeps.grows null) at_values
    change keys' = keys at same_keys
    change values' = values at same_values
    have undated_keys := ListView.undated_view_eq keeps shows shows_b sees.keys.header
    have undated_values := ListView.undated_view_eq keeps shows shows_b sees.values.header
    rw [opened, opened_b, same_keys, same_values]
    exact congrArg Except.ok (congrArg₂ (ObjectView.mk header) undated_keys undated_values)

end ObjectView

/-- What extends the picture disturbs nothing in it. -/
theorem Names.undisturbed_of_extends {n : Names} (names : n.Fits p) (names_b : n.Fits q)
    (more : p.writes ≤ q.writes) : n.Undisturbed a b q.writes := by
  have alike : q.writes < 0x10000000000000000 → ∀ v, p.Sees v → q.Sees v → v.ReadsAlike a b := by
    intro few v sees sees_b
    exact ListView.readsAlike_of_extends keeps shows shows_b sees.header
      (ListView.current_of_sees shows sees (by omega)) (ListView.current_of_sees shows_b sees_b few)
  constructor
  · intro g gives
    exact Arena.answersAlike_of_extends keeps shows shows_b (gives.issued shows names)
  · intro l es represents
    have list := (Arena.isList_iff shows).mp represents.list
    rw [represents.eq_lists shows, ← keeps.lists l list]
    exact shows_b.represents (keeps.grows.isList list)
  · intro x keys values lists
    exact (Arena.hasLists_iff shows_b).mpr
      (keeps.cells _ _ ((Arena.hasLists_iff shows).mp lists))
  · intro g gives
    have issued := gives.issued shows names
    exact ⟨ListView.ofHandle_extends keeps shows shows_b issued,
      ObjectView.ofHandle_extends keeps shows shows_b issued⟩
  · intro few
    refine ⟨fun v view => alike few v (names.sees view) (names_b.sees view), ?_⟩
    intro name o found
    have sees := names.objects name o found
    have sees_b := names_b.objects name o found
    exact ObjectView.readsAlike_of_lists (alike few _ sees.keys sees_b.keys)
      (alike few _ sees.values sees_b.values)

end Extends

end ValueArena
