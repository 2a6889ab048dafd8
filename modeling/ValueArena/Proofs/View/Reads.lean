import ValueArena.Proofs.View.List

/-!
Reads through a view, answered from the sequence that its list stands for.
-/
namespace ValueArena

/-- The item and the content of an entry are found again at their addresses. -/
structure Arena.Finds (a : Arena) (e : Entry) : Prop where
  item : ∃ h, a.decode e.item = .ok h ∧ h.addr = e.item ∧ h.kind = .listItem
  content : ∃ h, a.decode e.content = .ok h ∧ h.addr = e.content

/-- What reads through a view answer when its list stands for these entries. -/
structure ListView.Reads (v : ListView) (a : Arena) (es : List Entry) : Prop where
  finds : ∀ e ∈ es, a.Finds e
  count : (v.count a).map UInt32.toNat = .ok es.length
  item : ∀ i, (ListView.item a i v).1 = match es[i]? with
    | some e => a.decode e.item
    | none => .error (.outOfBounds i es.length)
  get : ∀ i, (ListView.get a i v).1 = match es[i]? with
    | some e => a.decode e.content
    | none => .error (.outOfBounds i es.length)
  items : (ListView.allItems a v).1.map Array.toList = es.mapM fun e => a.decode e.item
  values : (ListView.allValues a v).1.map Array.toList = es.mapM fun e => a.decode e.content

namespace ListView

variable {a : Arena} {p : Picture} {v : ListView}

theorem mapM_eq_ok {f : Entry → Except MemoryError Handle} {g : Entry → Handle} {es : List Entry}
    (same : ∀ e ∈ es, f e = .ok (g e)) : es.mapM f = .ok (es.map g) := by
  induction es with
  | nil => rfl
  | cons e es ih =>
    rw [List.mapM_cons, same e (.head es), ih fun f member => same f (.tail e member)]
    rfl

theorem decode_item (shows : a.Shows p) {l : Addr} {i : Nat} {e : Entry}
    (found : (p.lists l)[i]? = some e) : a.decode e.item = .ok (p.heap.handleAt e.item) :=
  Arena.decode_of_holds shows.holds (shows.formed.item l i e found)

theorem finds_of_mem (shows : a.Shows p) {l : Addr} {e : Entry} (member : e ∈ p.lists l) :
    a.Finds e := by
  obtain ⟨i, found⟩ := List.getElem?_of_mem member
  have cell := Heap.handleAt_of_some (shows.formed.item l i e found)
  have content := shows.formed.content l i e found
  refine ⟨⟨_, decode_item shows found, handleAt_item_addr shows found, ?_⟩,
    ⟨_, decode_content shows content, ?_⟩⟩
  · rw [cell]
    rfl
  · rcases content with null | ⟨c, at_content, _⟩
    · rw [null, Heap.handleAt_of_none shows.formed.null]
      rfl
    · rw [Heap.handleAt_of_some at_content]
      rfl

/-- Reads through any view of a list answer from the sequence of the list. -/
theorem reads_of_current (shows : a.Shows p) (list : p.heap.IsList v.header.addr)
    (current : v.Current a p) : v.Reads a (p.lists v.header.addr) := by
  have fresh := ensureFresh_current shows list current
  constructor
  · exact fun e member => finds_of_mem shows member
  · obtain ⟨n, loaded, length⟩ := (shows.represents list).count
    have counted : v.count a = .ok n := loaded
    rw [counted, ← length]
    rfl
  · intro i
    have answer : ListView.item a i v = _ := read_apply fresh _
    rw [answer, view_items_getElem?]
    cases found : (p.lists v.header.addr)[i]? with
    | none => simp [Picture.view]
    | some e => exact (decode_item shows found).symm
  · intro i
    have answer : ListView.get a i v = _ := read_apply fresh _
    rw [answer, view_values_getElem?]
    cases found : (p.lists v.header.addr)[i]? with
    | none => simp [Picture.view]
    | some e => exact (decode_content shows (shows.formed.content _ i e found)).symm
  · have answer : ListView.allItems a v = _ := read_apply fresh _
    rw [answer, mapM_eq_ok (g := fun e => p.heap.handleAt e.item)]
    · rfl
    · intro e member
      obtain ⟨i, found⟩ := List.getElem?_of_mem member
      exact decode_item shows found
  · have answer : ListView.allValues a v = _ := read_apply fresh _
    rw [answer, mapM_eq_ok (g := fun e => p.heap.handleAt e.content)]
    · rfl
    · intro e member
      obtain ⟨i, found⟩ := List.getElem?_of_mem member
      exact decode_content shows (shows.formed.content _ i e found)

theorem reads_of_sees (shows : a.Shows p) (sees : p.Sees v)
    (few : p.writes < 0x10000000000000000) : v.Reads a (p.lists v.header.addr) :=
  reads_of_current shows sees.header (current_of_sees shows sees few)

end ListView

end ValueArena
