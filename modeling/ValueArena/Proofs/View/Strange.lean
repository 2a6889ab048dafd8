import ValueArena.Proofs.View.List

/-!
Contents from elsewhere. An item of the arena takes whatever address it is given; only the walk
that follows finds out whether a value is there.
-/
namespace ValueArena

namespace Arena

variable {a b : Arena} {p : Picture} {item item' content content' : Handle} {d d' : Descriptor}

/-- What is written depends on where the item is and on what the content becomes. -/
theorem setItemContent_congr (required : item.require .listItem = .ok d)
    (required' : item'.require .listItem = .ok d') (same : d'.addr = d.addr)
    (become : materialize content' = materialize content) :
    setItemContent item' content' a = setItemContent item content a := by
  simp only [setItemContent, Step.view_bind, required, required', same, become]

/-- A value given as a content is written as it is, wherever it is from. -/
theorem setItemContent_stored (shows : a.Shows p) (required : item.require .listItem = .ok d)
    {old next : Addr} (found : p.heap d.addr = some (.item old next)) {c : Descriptor}
    (named : c.kind ≠ .none) :
    ∃ b, setItemContent item (.stored c) a = (.ok (.stored c), b) ∧
      b.store.Holds (p.heap.put d.addr (.item c.addr next)) ∧
      b.generation = a.generation + 1 ∧ b.store.room = a.store.room := by
  obtain ⟨b, wrote, rewrites⟩ := write_itemContent shows.holds found c.addr
  have made : materialize (.stored c) a = (.ok (c.addr, .stored c), a) := by
    simp only [materialize, named, if_false]
    rfl
  refine ⟨{ b with generation := b.generation + 1 }, ?_, rewrites.holds, ?_, rewrites.room⟩
  · simp only [setItemContent, Step.view_bind, required]
    rw [Step.bind_ok made]
    exact (Step.bind_ok wrote).trans rfl
  · rw [← rewrites.generation]

/-- Every other content can still be decoded. -/
theorem decode_refilled (shows : a.Shows p) {x old next content : Addr}
    (found : p.heap x = some (.item old next))
    (holds : b.store.Holds (p.heap.put x (.item content next))) {l : Addr} {e : Entry}
    (member : e ∈ Change.on l (p.lists l) (.replace x content)) :
    e.item = x ∧ e.content = content ∨ ∃ h, b.decode e.content = .ok h := by
  obtain ⟨f, listed, rfl⟩ := List.mem_map.mp member
  by_cases same : f.item = x
  · rw [Entry.refill, if_pos same]
    exact .inl ⟨rfl, rfl⟩
  · rw [Entry.refill, if_neg same]
    obtain ⟨i, at_i⟩ := List.getElem?_of_mem listed
    have becomes := Cell.becomes_of_rewritten (c := .item old next) (d := .item content next) rfl rfl
    rcases (Heap.grows_put found becomes).isContent (shows.formed.content l i f at_i) with
      null | ⟨c, at_content, _⟩
    · rw [null]
      exact .inr ⟨_, decode_null holds⟩
    · exact .inr ⟨_, decode_of_holds holds at_content⟩

end Arena

namespace ListView

variable {a b : Arena} {p : Picture} {v : ListView} {item content : Handle} {d : Descriptor}
  {old next : Addr}

/-- A content that cannot be decoded is all that can keep a list from being read. -/
theorem refresh_refilled (shows : a.Shows p) {x content : Addr}
    (found : p.heap x = some (.item old next))
    (holds : b.store.Holds (p.heap.put x (.item content next))) (v : ListView)
    (list : p.heap.IsList v.header.addr) :
    (∃ u, refresh b v = (.ok (), u) ∧ u.header = v.header ∧
      ((∃ e ∈ p.lists v.header.addr, e.item = x) → ∃ h, b.decode content = .ok h)) ∨
    (∃ e ∈ p.lists v.header.addr, e.item = x) ∧
      ∃ y u, b.decode content = .error y ∧ refresh b v = (.error y, u) ∧ u.header = v.header := by
  have becomes := Cell.becomes_of_rewritten (c := .item old next) (d := .item content next) rfl rfl
  have list_b := (Heap.grows_put found becomes).isList list
  have chained := shows.formed.chained.replace found content
  have others := @Arena.decode_refilled _ _ _ shows _ _ _ _ found holds
  by_cases lost : (∃ e ∈ p.lists v.header.addr, e.item = x) ∧ ∀ h, b.decode content ≠ .ok h
  · obtain ⟨⟨e, listed, same⟩, unread⟩ := lost
    obtain ⟨f, member, y, u, refused, walked, header⟩ := refresh_lost holds chained list_b
      ⟨_, List.mem_map_of_mem listed, by rw [Entry.refill, if_pos same]; exact unread⟩
    rcases others member with ⟨_, same'⟩ | ⟨h, decoded⟩
    · rw [same'] at refused
      exact .inr ⟨⟨e, listed, same⟩, y, u, refused, walked, header⟩
    · rw [decoded] at refused
      cases refused
  · have decoded : ∀ f ∈ Change.on v.header.addr (p.lists v.header.addr) (.replace x content),
        ∃ h, b.decode f.content = .ok h := by
      intro f member
      rcases others member with ⟨same, same'⟩ | decoded
      · rw [same']
        obtain ⟨e, listed, rfl⟩ := List.mem_map.mp member
        rw [Entry.refill_item] at same
        exact Classical.byContradiction fun unread =>
          lost ⟨⟨e, listed, same⟩, fun h ok => unread ⟨h, ok⟩⟩
      · exact decoded
    obtain ⟨u, walked, header⟩ := refresh_readable holds chained list_b decoded
    refine .inl ⟨u, walked, header, fun listed => ?_⟩
    exact Classical.byContradiction fun unread => lost ⟨listed, fun h ok => unread ⟨h, ok⟩⟩

/-- A write to an item of the arena fails before anything is written, or once a content from
elsewhere is in the item and cannot be decoded. -/
theorem setContent_item_cases (shows : a.Shows p) (sees : p.Sees v) (content : Handle)
    (required : item.require .listItem = .ok d) (found : p.heap d.addr = some (.item old next)) :
    (∃ e, setContent item content (v, a) = (.error e, (v, a))) ∨
    (∃ u b, setContent item content (v, a) = (.ok (), (u, b))) ∨
    ∃ c b y u, content = .stored c ∧ c.kind ≠ .none ∧
      b.store.Holds (p.heap.put d.addr (.item c.addr next)) ∧
      b.generation = a.generation + 1 ∧ b.store.room = a.store.room ∧
      b.decode c.addr = .error y ∧ setContent item content (v, a) = (.error y, (u, b)) ∧
      u.header = v.header ∧ ∃ e ∈ p.lists v.header.addr, e.item = d.addr := by
  have cell := Heap.require_handleAt (shows.addr_ne_null found) found
  -- Numbers and the empty slot become what the arena itself would give.
  have own : ∀ content', p.heap.Issued content' →
      Arena.materialize content' = Arena.materialize content →
      (∃ e, setContent item content (v, a) = (.error e, (v, a))) ∨
        ∃ u b, setContent item content (v, a) = (.ok (), (u, b)) := by
    intro content' issued become
    have same : setContent (p.heap.handleAt d.addr) content' (v, a) =
        setContent item content (v, a) := by
      have congr := Arena.setItemContent_congr (a := a) required cell rfl become
      simp only [setContent, bind, Step.onSecond, Step.within, congr]
    rcases setContent_cases shows sees (Heap.issued_handleAt shows.formed.null d.addr) issued with
      ⟨e, failed, _⟩ | ⟨kept, b, q, replaced, _⟩
    · exact .inl ⟨e, same.symm.trans failed⟩
    · exact .inr ⟨_, b, same.symm.trans replaced⟩
  cases content with
  | immediate n => exact (own (.immediate n) trivial rfl).imp_right .inl
  | stored c =>
    by_cases none : c.kind = .none
    · have become : Arena.materialize .none = Arena.materialize (.stored c) := by
        simp only [Handle.none, Arena.materialize, none, if_true]
      exact (own .none (Heap.issued_none shows.formed.null) become).imp_right .inl
    · obtain ⟨b, wrote, holds, generation, room⟩ :=
        Arena.setItemContent_stored shows required found none
      have written : setContent item (.stored c) (v, a) = reading refresh (v, b) :=
        Step.bind_ok (Step.onSecond_apply wrote)
      rcases refresh_refilled shows found holds v sees.header with
        ⟨u, walked, _⟩ | ⟨listed, y, u, lost, walked, header⟩
      · exact .inr (.inl ⟨u, b, written.trans (reading_apply walked)⟩)
      · exact .inr (.inr ⟨c, b, y, u, rfl, none, holds, generation, room, lost,
          written.trans (reading_apply walked), header, listed⟩)

end ListView
end ValueArena
