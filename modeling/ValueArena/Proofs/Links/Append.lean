import ValueArena.Proofs.Links.Fields
import ValueArena.Proofs.Links.Formed

/-!
Linking an item into a list. The item comes after the one that was last, or first if there was none.
-/
namespace ValueArena.Arena

variable {a : Arena} {heap : Heap} {lists : Addr → List Entry} {l item content first last : Addr}
  {count : UInt32}

/-- What an append does once it has room. -/
def addItem (list : Descriptor) (count : UInt32) (content : Handle) :
    ArenaStep (Handle × Handle) := do
  let (contentAddr, content) ← materialize content
  let item ← createPair .listItem .itemContent .itemNext contentAddr .null
  linkItem list.addr item.addr
  writeField list.addr .listCount (count + 1)
  bumpGeneration
  pure (.stored item, content)

theorem appendItem_eq (list : Descriptor) (content : Handle) : appendItem list content = (do
    let count ← .view (·.listCount list)
    .view fun a =>
      if count.toNat < 0xFFFFFFFF then .ok () else .error (.allocationFailed 16 a.spaceOccupied)
    .view fun a =>
      if a.store.wouldFit [promotionSize content, itemLength] then .ok ()
      else .error (.allocationFailed (promotionSize content + itemLength) a.spaceOccupied)
    addItem list count content) := by
  simp only [appendItem, addItem, createPair, bind_assoc, pure_bind]

/-- A list without a last item is empty. -/
theorem length_eq_zero_of_last {es : List Entry} (none : es[es.length - 1]? = none) :
    es.length = 0 := by
  have := List.getElem?_eq_none_iff.mp none
  omega

theorem Rewrites.trans {b c : Arena} {heap' : Heap} (left : a.Rewrites heap b)
    (right : b.Rewrites heap' c) : a.Rewrites heap' c :=
  ⟨right.holds, right.generation.trans left.generation, right.room.trans left.room⟩

/-- `heap'` is `heap` with an item that follows the last of these entries, not yet counted. -/
structure Follows (heap : Heap) (es : List Entry) (l : Addr) (e : Entry) (count : UInt32)
    (heap' : Heap) : Prop where
  header : heap' l = some (.list (itemAt (es ++ [e]) 0) e.item count)
  new : heap' e.item = some (.item e.content .null)
  links : ∀ f, es[es.length - 1]? = some f → heap' f.item = some (.item f.content e.item)
  others : ∀ x, x ≠ e.item → x ≠ l → (∀ f, es[es.length - 1]? = some f → x ≠ f.item) →
    heap' x = heap x

section

variable (formed : heap.Formed lists) (fresh : heap item = none)
  (holds : a.store.Holds (heap.put item (.item content .null)))
  (list : heap l = some (.list first last count))
include formed fresh holds list

/-- An empty list takes the item for its first and its last. -/
theorem linkItem_first (empty : lists l = []) :
    ∃ b heap', linkItem l item a = (.ok (), b) ∧ a.Rewrites heap' b ∧
      Follows heap (lists l) l ⟨item, content⟩ count heap' := by
  have here := Heap.put_fresh fresh list (.item content .null)
  have apart := Heap.ne_of_fresh list fresh
  have null : first.isNull = true := by
    rw [(formed.header l first last count list).1, empty]
    rfl
  obtain ⟨a₁, wrote_first, first_put⟩ := write_listFirst holds here item
  obtain ⟨a₂, wrote_last, last_put⟩ := write_listLast first_put.holds (Heap.put_self ..) item
  refine ⟨a₂, _, ?_, first_put.trans last_put, ?_, ?_, ?_, ?_⟩
  · simp only [linkItem, Step.view_bind, load_listFirst (holds.lies here), null, if_true]
    rw [Step.bind_ok wrote_first, wrote_last]
  · rw [Heap.put_self, empty]
    rfl
  · rw [Heap.put_other apart.symm, Heap.put_other apart.symm, Heap.put_self]
  · intro f at_last
    rw [empty] at at_last
    cases at_last
  · intro x not_item not_list _
    rw [Heap.put_other not_list, Heap.put_other not_list, Heap.put_other not_item]

/-- Any other list has it linked from the item that was last. -/
theorem linkItem_next {f : Entry} (at_last : (lists l)[(lists l).length - 1]? = some f) :
    ∃ b heap', linkItem l item a = (.ok (), b) ∧ a.Rewrites heap' b ∧
      Follows heap (lists l) l ⟨item, content⟩ count heap' := by
  obtain ⟨first_eq, last_eq, _⟩ := formed.header l first last count list
  have here := Heap.put_fresh fresh list (.item content .null)
  have apart := Heap.ne_of_fresh list fresh
  have inside := (List.getElem?_eq_some_iff.mp at_last).1
  obtain ⟨e, at_first⟩ : ∃ e, (lists l)[0]? = some e := ⟨_, List.getElem?_eq_getElem (by omega)⟩
  have last_item : last = f.item := by rw [last_eq, itemAt_of_getElem? at_last]
  have at_f := formed.item l _ f at_last
  have f_here := Heap.put_fresh fresh at_f (.item content .null)
  have stored : first.isNull = false := by
    rw [first_eq, itemAt_of_getElem? at_first]
    exact Addr.isNull_eq_false (Heap.ne_of_fresh (formed.item l 0 e at_first) formed.null)
  have f_other := Heap.ne_of_fresh at_f fresh
  have f_list := Heap.ne_of_cells at_f list nofun
  obtain ⟨a₁, wrote_next, next_put⟩ := write_itemNext holds f_here item
  have still_here := (Heap.put_other (c := .item f.content item) f_list.symm).trans here
  obtain ⟨a₂, wrote_last, last_put⟩ := write_listLast next_put.holds still_here item
  refine ⟨a₂, _, ?_, next_put.trans last_put, ?_, ?_, ?_, ?_⟩
  · simp only [linkItem, Step.view_bind, load_listFirst (holds.lies here), stored,
      Bool.false_eq_true, if_false, load_listLast (holds.lies here)]
    rw [last_item, Step.bind_ok wrote_next, wrote_last]
  · rw [Heap.put_self, first_eq, itemAt_append_of_lt (by omega)]
  · rw [Heap.put_other apart.symm, Heap.put_other f_other.symm, Heap.put_self]
  · intro g at_g
    cases at_last.symm.trans at_g
    rw [Heap.put_other f_list, Heap.put_self]
  · intro x not_item not_list not_last
    rw [Heap.put_other not_list, Heap.put_other (not_last f at_last), Heap.put_other not_item]

theorem linkItem_ok :
    ∃ b heap', linkItem l item a = (.ok (), b) ∧ a.Rewrites heap' b ∧
      Follows heap (lists l) l ⟨item, content⟩ count heap' := by
  cases at_last : (lists l)[(lists l).length - 1]? with
  | none =>
    have empty := List.eq_nil_of_length_eq_zero (length_eq_zero_of_last at_last)
    exact linkItem_first formed fresh holds list empty
  | some f => exact linkItem_next formed fresh holds list at_last

end

end ValueArena.Arena
