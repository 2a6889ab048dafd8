import ValueArena.Proofs.Heap.Overwriting
import ValueArena.Proofs.View.Object
import ValueArena.Proofs.View.Reads

/-!
Views while no list is written. Whatever else is done to the arena, lists and objects open as
before, and every view that was opened earlier serves the same handles.
-/
namespace ValueArena

/-- The view serves the same handles from both arenas, and is read anew for the one only if it is
for the other. -/
structure ListView.Unmoved (v : ListView) (a b : Arena) : Prop where
  fresh : v.isFresh b = v.isFresh a
  count : v.count b = v.count a
  item : ∀ i, ListView.item b i v = ListView.item a i v
  get : ∀ i, ListView.get b i v = ListView.get a i v
  items : ListView.allItems b v = ListView.allItems a v
  values : ListView.allValues b v = ListView.allValues a v
  unread : v.isFresh a = true → ∀ i, (ListView.get b i v).2 = v

variable {a b : Arena} {p q : Picture}

namespace ListView

variable {v : ListView} {g : Handle}

section Quiet

variable (shows : a.Shows p) (shows_b : b.Shows q) (evolves : p.Evolves [] q)
include shows shows_b evolves

/-- A view is brought up to the same contents. -/
theorem ensureFresh_quiet (sees : p.Sees v) : ensureFresh b v = ensureFresh a v := by
  have sees_q := sees.evolves evolves shows.formed shows_b.formed.null
  have same := isFresh_quiet shows shows_b evolves v
  cases fresh : v.isFresh a with
  | true =>
    rw [fresh] at same
    simp only [ensureFresh, Step.view_bind, fresh, same, if_true]
  | false =>
    rw [fresh] at same
    simp only [ensureFresh, Step.view_bind, fresh, same, Bool.false_eq_true, if_false]
    rw [refresh_ok shows sees.header, refresh_ok shows_b sees_q.header,
      evolves.view_eq shows.formed shows_b.formed.null]

theorem read_quiet (sees : p.Sees v) (f : ListView → Except MemoryError α) :
    (ensureFresh b >>= fun _ => Step.view f) v = (ensureFresh a >>= fun _ => Step.view f) v := by
  have same := ensureFresh_quiet shows shows_b evolves sees
  obtain ⟨u, fresh, _⟩ := ensureFresh_sees shows sees
  rw [read_apply fresh, read_apply (same.trans fresh)]

theorem count_quiet (sees : p.Sees v) : v.count b = v.count a := by
  have sees_q := sees.evolves evolves shows.formed shows_b.formed.null
  obtain ⟨n, loaded, length⟩ := (shows.represents sees.header).count
  obtain ⟨m, loaded_b, length_b⟩ := (shows_b.represents sees_q.header).count
  rw [evolves.lists_eq, ← length] at length_b
  obtain rfl := UInt32.toNat_inj.mp length_b
  exact loaded_b.trans loaded.symm

theorem unmoved_quiet (sees : p.Sees v) : v.Unmoved a b where
  fresh := isFresh_quiet shows shows_b evolves v
  count := count_quiet shows shows_b evolves sees
  item := fun _ => read_quiet shows shows_b evolves sees _
  get := fun _ => read_quiet shows shows_b evolves sees _
  items := read_quiet shows shows_b evolves sees _
  values := read_quiet shows shows_b evolves sees _
  unread := by
    intro fresh i
    have left : ensureFresh a v = (.ok (), v) := by
      simp only [ensureFresh, Step.view_bind, fresh, if_true]
      rfl
    have same : ListView.get b i v = ListView.get a i v := read_quiet shows shows_b evolves sees _
    have answer : ListView.get a i v = _ := read_apply left _
    rw [same, answer]

/-- A list opens as before. -/
theorem ofHandle_quiet (issued : p.heap.Issued g) : ofHandle b g = ofHandle a g := by
  cases required : g.require .list with
  | error e => simp only [ofHandle, required, bind, Except.bind]
  | ok header =>
    have issued_b := issued.grows evolves.grows shows_b.formed.null
    obtain ⟨_, _, opened, _⟩ := ofHandle_of_require shows issued required
    obtain ⟨_, _, opened_b, _⟩ := ofHandle_of_require shows_b issued_b required
    rw [opened, opened_b, evolves.view_eq shows.formed shows_b.formed.null]

end Quiet

/-- A search depends on nothing but what the test says of each handle. -/
theorem search_congr {test test' : Handle → Except MemoryError Bool} {hs : List Handle}
    (same : ∀ h ∈ hs, test' h = test h) (index : Nat) :
    search test' index hs = search test index hs := by
  induction hs generalizing index with
  | nil => rfl
  | cons h hs ih =>
    rw [search, search, same h (.head hs)]
    simp only [ih fun g member => same g (.tail h member)]

theorem hasNumber_alike (alike : a.AnswersAlike b g) (number : Binary64) :
    hasNumber b number g = hasNumber a number g := by
  simp only [hasNumber, alike.double]

theorem hasText_alike (alike : a.AnswersAlike b g) (text : String) :
    hasText b text g = hasText a text g := by
  simp only [hasText, alike.bytes, alike.text]

end ListView

namespace ObjectView

variable {o : ObjectView} {g : Handle} (shows : a.Shows p) (shows_b : b.Shows q)
  (evolves : p.Evolves [] q)
include shows shows_b evolves

/-- An object opens as before. -/
theorem ofHandle_quiet (issued : p.heap.Issued g) : ofHandle b g = ofHandle a g := by
  cases required : g.require .object with
  | error e => simp only [ofHandle, required, bind, Except.bind]
  | ok header =>
    have null := shows_b.formed.null
    have issued_b := issued.grows evolves.grows null
    obtain ⟨keys, values, opened, sees⟩ := ofHandle_of_require shows issued required
    obtain ⟨keys', values', opened_b, sees_b⟩ := ofHandle_of_require shows_b issued_b required
    have cell := evolves.grows.kept sees.cell rfl
    injection Option.some.inj (sees_b.cell.symm.trans cell) with at_keys at_values
    have same_keys :=
      sees_b.keys.named.eq_of_addr (sees.keys.named.grows evolves.grows null) at_keys
    have same_values :=
      sees_b.values.named.eq_of_addr (sees.values.named.grows evolves.grows null) at_values
    change keys' = keys at same_keys
    change values' = values at same_values
    rw [opened, opened_b, same_keys, same_values]
    simp only [Picture.objectView, evolves.view_eq shows.formed null]

/-- As long as the keys read alike the same handles are found under them. -/
theorem get_quiet (sees : p.SeesObject o) {keys : Array Handle}
    (served : (ListView.allValues a o.keys).1 = .ok keys)
    (alike : ∀ g ∈ keys, a.AnswersAlike b g) (key : String) :
    (get b key o).1 = (get a key o).1 ∧ (slot b key o).1 = (slot a key o).1 := by
  obtain ⟨u, fresh, _⟩ := ListView.ensureFresh_sees shows sees.keys
  have fresh_b := (ListView.ensureFresh_quiet shows shows_b evolves sees.keys).trans fresh
  have answer : ListView.allValues a o.keys = _ := ListView.read_apply fresh _
  obtain rfl : u.values = keys := by
    rw [answer] at served
    exact Except.ok.inj served
  have searched :
      (ListView.indexOfText b key o.keys).1 = (ListView.indexOfText a key o.keys).1 := by
    have left : ListView.indexOfText a key o.keys = _ := ListView.read_apply fresh _
    have right : ListView.indexOfText b key o.keys = _ := ListView.read_apply fresh_b _
    rw [left, right]
    exact ListView.search_congr (fun g member =>
      ListView.hasText_alike (alike g (Array.mem_toList_iff.mp member)) key) 0
  have position : (ObjectView.position b key o).1 = (ObjectView.position a key o).1 := by
    rw [(position_apply b key o).1, (position_apply a key o).1, searched]
  have moved := ListView.unmoved_quiet shows shows_b evolves sees.values
  simp only [get_apply, slot_apply, position, moved.get, moved.item, and_self]

end ObjectView
end ValueArena
