import ValueArena.Collection.ListView
import ValueArena.Proofs.Picture.Basic

/-!
Walking a list. The walk follows the links of the items and fails only at a content that cannot be
decoded. On a list of a picture it never fails, and ends with the view that the picture prescribes.
-/
namespace ValueArena

/-- What an up-to-date view of a list remembers. -/
def Picture.view (p : Picture) (header : Descriptor) : ListView where
  header
  items := ((p.lists header.addr).map fun e => p.heap.handleAt e.item).toArray
  values := ((p.lists header.addr).map fun e => p.heap.handleAt e.content).toArray
  builtAt := some (UInt64.ofNat p.writes)

namespace ListView

section Chained

variable {a : Arena} {heap : Heap} {lists : Addr → List Entry} (holds : a.store.Holds heap)
  (chained : heap.Chained lists)
include holds chained

/-- A visit fails only at a content that cannot be decoded. -/
theorem visit_apply {l : Addr} {i : Nat} {e : Entry} (found : (lists l)[i]? = some e)
    (v : ListView) : visit a e.item v =
      match a.decode e.content with
      | .ok h => (.ok (itemAt (lists l) (i + 1)),
          { v with items := v.items.push (heap.handleAt e.item), values := v.values.push h })
      | .error x => (.error x, { v with items := v.items.push (heap.handleAt e.item) }) := by
  have cell := chained.item l i e found
  have decoded := Arena.decode_of_holds holds cell
  have required := Heap.require_handleAt (holds.ne_null cell) cell
  have kind : (Cell.item e.content (itemAt (lists l) (i + 1))).kind = .listItem := rfl
  rw [kind] at required
  have content := Arena.load_itemContent (holds.lies cell)
  have next := Arena.load_itemNext (holds.lies cell)
  cases value : a.decode e.content <;>
    simp only [visit, Step.view_bind, decoded, required, Except.map, content, addItem, addValue,
      Step.modify_bind, value, Step.view_apply, next]

/-- The walk finds what is left of the list. -/
theorem walk_ok (l : Addr) {value : Entry → Handle}
    (decoded : ∀ e ∈ lists l, a.decode e.content = .ok (value e)) (count left : Nat) :
    ∀ (i : Nat) (v : ListView), i + left = (lists l).length →
      walk a count left (itemAt (lists l) i) v = (.ok (),
        { v with
          items := v.items ++ (((lists l).drop i).map fun e => heap.handleAt e.item).toArray
          values := v.values ++ (((lists l).drop i).map value).toArray }) := by
  -- The steps left and the place reached add up to the length, so the walk ends with the list.
  induction left with
  | zero =>
    intro i v last
    have none_left : (lists l).drop i = [] := List.drop_eq_nil_of_le (by omega)
    simp [walk, none_left]
  | succ left ih =>
    intro i v inside
    have bound : i < (lists l).length := by omega
    obtain ⟨e, found⟩ : ∃ e, (lists l)[i]? = some e := ⟨_, List.getElem?_eq_getElem bound⟩
    have stored := Addr.isNull_eq_false (holds.ne_null (chained.item l i e found))
    have rest : (lists l).drop i = e :: (lists l).drop (i + 1) := by
      rw [List.drop_eq_getElem_cons bound, (List.getElem?_eq_some_iff.mp found).2]
    have visited := visit_apply holds chained found v
    rw [decoded e (List.mem_of_getElem? found)] at visited
    rw [itemAt_of_getElem? found]
    simp only [walk, stored, Bool.false_eq_true, if_false]
    rw [Step.bind_ok visited, ih (i + 1) _ (by omega), rest]
    simp

/-- The walk ends at the first content that cannot be decoded. -/
theorem walk_lost (l : Addr) (count left : Nat) :
    ∀ (i : Nat) (v : ListView), i + left = (lists l).length →
      (∃ e ∈ (lists l).drop i, ∀ h, a.decode e.content ≠ .ok h) →
      ∃ e ∈ lists l, ∃ x u, a.decode e.content = .error x ∧
        walk a count left (itemAt (lists l) i) v = (.error x, u) ∧ u.header = v.header := by
  induction left with
  | zero =>
    intro i v last lost
    have none_left : (lists l).drop i = [] := List.drop_eq_nil_of_le (by omega)
    obtain ⟨e, member, _⟩ := lost
    rw [none_left] at member
    cases member
  | succ left ih =>
    intro i v inside lost
    have bound : i < (lists l).length := by omega
    obtain ⟨e, found⟩ : ∃ e, (lists l)[i]? = some e := ⟨_, List.getElem?_eq_getElem bound⟩
    have stored := Addr.isNull_eq_false (holds.ne_null (chained.item l i e found))
    have rest : (lists l).drop i = e :: (lists l).drop (i + 1) := by
      rw [List.drop_eq_getElem_cons bound, (List.getElem?_eq_some_iff.mp found).2]
    have visited := visit_apply holds chained found v
    rw [itemAt_of_getElem? found]
    simp only [walk, stored, Bool.false_eq_true, if_false]
    cases value : a.decode e.content with
    | error x =>
      rw [value] at visited
      exact ⟨e, List.mem_of_getElem? found, x, _, value, Step.bind_error visited, rfl⟩
    | ok h =>
      rw [value] at visited
      obtain ⟨f, member, unread⟩ := lost
      have later : f ∈ (lists l).drop (i + 1) := by
        rw [rest] at member
        rcases List.mem_cons.mp member with rfl | later
        · exact absurd value (unread h)
        · exact later
      obtain ⟨g, listed, x, u, refused, walked, header⟩ :=
        ih (i + 1) { v with items := v.items.push (heap.handleAt e.item),
                            values := v.values.push h } (by omega) ⟨f, later, unread⟩
      exact ⟨g, listed, x, u, refused, (Step.bind_ok visited).trans walked, header⟩

/-- A list is walked from its first item over as many as it has. -/
theorem refresh_walk {v : ListView} (list : heap.IsList v.header.addr) :
    refresh a v = (walk a (lists v.header.addr).length (lists v.header.addr).length
      (itemAt (lists v.header.addr) 0) >>= fun _ =>
        .modify fun v => { v with builtAt := some a.generation }) (unread v.header) := by
  obtain ⟨first, last, count, found⟩ := list
  obtain ⟨first_eq, _, length⟩ := chained.header _ first last count found
  have counted : a.listCount v.header = .ok count := Arena.load_listCount (holds.lies found)
  have got_first := Arena.load_listFirst (holds.lies found)
  rw [← first_eq, ← length]
  simp only [refresh, Step.modify_bind, Step.view_bind, ListView.count, unread, counted, got_first]

theorem refresh_chained {v : ListView} (list : heap.IsList v.header.addr)
    {value : Entry → Handle}
    (decoded : ∀ e ∈ lists v.header.addr, a.decode e.content = .ok (value e)) :
    refresh a v = (.ok (), ⟨v.header,
      ((lists v.header.addr).map fun e => heap.handleAt e.item).toArray,
      ((lists v.header.addr).map value).toArray, some a.generation⟩) := by
  rw [refresh_walk holds chained list,
    Step.bind_ok (walk_ok holds chained _ decoded _ _ 0 (unread v.header) (Nat.zero_add _))]
  simp [unread]

theorem refresh_readable {v : ListView} (list : heap.IsList v.header.addr)
    (decoded : ∀ e ∈ lists v.header.addr, ∃ h, a.decode e.content = .ok h) :
    ∃ u, refresh a v = (.ok (), u) ∧ u.header = v.header := by
  let value : Entry → Handle := fun e => (a.decode e.content).toOption.getD .none
  have read : ∀ e ∈ lists v.header.addr, a.decode e.content = .ok (value e) := by
    intro e member
    obtain ⟨h, decoded⟩ := decoded e member
    simp [value, decoded, Except.toOption]
  exact ⟨_, refresh_chained holds chained list read, rfl⟩

/-- A list with a content that cannot be decoded cannot be read. -/
theorem refresh_lost {v : ListView} (list : heap.IsList v.header.addr)
    (lost : ∃ e ∈ lists v.header.addr, ∀ h, a.decode e.content ≠ .ok h) :
    ∃ e ∈ lists v.header.addr, ∃ x u, a.decode e.content = .error x ∧
      refresh a v = (.error x, u) ∧ u.header = v.header := by
  obtain ⟨e, member, x, u, refused, walked, header⟩ := walk_lost holds chained _ _ _ 0
    (unread v.header) (Nat.zero_add _) lost
  refine ⟨e, member, x, u, refused, ?_, header⟩
  rw [refresh_walk holds chained list]
  exact Step.bind_error walked

end Chained

variable {a : Arena} {p : Picture}

theorem decode_content (shows : a.Shows p) {addr : Addr} (content : p.heap.IsContent addr) :
    a.decode addr = .ok (p.heap.handleAt addr) := by
  rcases content with rfl | ⟨c, found, _⟩
  · exact Arena.decode_null shows.holds
  · exact Arena.decode_of_holds shows.holds found

/-- Walking a list again never fails, and gives the up-to-date view. -/
theorem refresh_ok (shows : a.Shows p) {v : ListView} (header : p.heap.IsList v.header.addr) :
    refresh a v = (.ok (), p.view v.header) := by
  have decoded : ∀ e ∈ p.lists v.header.addr,
      a.decode e.content = .ok (p.heap.handleAt e.content) := by
    intro e member
    obtain ⟨i, found⟩ := List.getElem?_of_mem member
    exact decode_content shows (shows.formed.content _ i e found)
  rw [refresh_chained shows.holds shows.formed.chained header decoded, Picture.view,
    shows.generation]

end ListView
end ValueArena
