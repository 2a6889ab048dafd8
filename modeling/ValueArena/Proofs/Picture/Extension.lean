import ValueArena.Proofs.Picture.Writes

/-!
Pictures that grow beside what was there. As long as only lists and items are written that are newer
than a picture, its cells and its sequences are found in every later one as they were.
-/
namespace ValueArena

/-- The change writes to a list or an item that the heap does not have. -/
def Change.Spares (heap : Heap) : Change → Prop
  | .append l e => heap l = none ∧ heap e.item = none
  | .replace item _ => heap item = none

namespace Picture

/-- `q` has all of `p` as it was, and the items of its further lists are further items. -/
structure Extends (p q : Picture) : Prop where
  cells : ∀ x c, p.heap x = some c → q.heap x = some c
  lists : ∀ l, p.heap.IsList l → q.lists l = p.lists l
  beside : ∀ l, ¬ p.heap.IsList l → ∀ e ∈ q.lists l, p.heap e.item = none

/-- Plain values of `p` are those of `q`. -/
def KeepsPlain (p q : Picture) : Prop :=
  ∀ x content, p.heap x = some (.plain content) → q.heap x = some (.plain content)

variable {p q r : Picture} {changes : List Change}

theorem keepsPlain_add {a b : Arena} {c : Cell} {h : Handle}
    (creates : Arena.Creates a p.heap c h b) (room : PageStore.Room) :
    p.KeepsPlain (p.add h.addr c room) :=
  fun _ _ found => Heap.put_fresh creates.fresh found c

/-- What is written to a list and its items leaves plain values alone. -/
theorem keepsPlain_of_stays (formed : p.heap.Formed p.lists) {l : Addr} (list : p.heap.IsList l)
    (stays : ∀ x c, p.heap x = some c → p.Apart l x → q.heap x = some c) : p.KeepsPlain q :=
  fun x _ found => stays x _ found (apart_of_plain formed list found)

theorem Extends.refl (formed : p.heap.Formed p.lists) : p.Extends p := by
  refine ⟨fun _ _ found => found, fun _ _ => rfl, ?_⟩
  intro l unlisted e member
  rw [formed.unlisted l unlisted] at member
  cases member

theorem Extends.grows (keeps : p.Extends q) : p.heap.Grows q.heap :=
  fun x c found => ⟨c, keeps.cells x c found, .refl c⟩

theorem Extends.fresh (keeps : p.Extends q) {x : Addr} (fresh : q.heap x = none) :
    p.heap x = none := keeps.grows.fresh fresh

/-- What is there lies apart from every further list. -/
theorem Extends.apart (keeps : p.Extends q) {l x : Addr} {c : Cell} (further : p.heap l = none)
    (found : p.heap x = some c) : q.Apart l x := by
  refine ⟨Heap.ne_of_fresh found further, fun e member => ?_⟩
  exact Heap.ne_of_fresh found (keeps.beside l (Heap.not_isList_of_fresh further) e member)

/-- Sequences of items that are there are not changed. -/
theorem on_spared {heap : Heap} {l : Addr} {es : List Entry} (list : heap.IsList l)
    (items : ∀ e ∈ es, heap e.item ≠ none) {change : Change} (spares : change.Spares heap) :
    Change.on l es change = es := by
  cases change with
  | append m e =>
    have other : l ≠ m := by
      rintro rfl
      exact Heap.not_isList_of_fresh spares.1 list
    rw [Change.on, if_neg other]
  | replace item content =>
    apply (List.map_congr_left ?_).trans (List.map_id es)
    intro e member
    have other : e.item ≠ item := fun same => items e member (same ▸ spares)
    simp [Entry.refill, other]

/-- A sequence of items that are not there stays one. -/
theorem beside_on {heap : Heap} {l : Addr} {es : List Entry}
    (items : ∀ e ∈ es, heap e.item = none) {change : Change} (spares : change.Spares heap) :
    ∀ e ∈ Change.on l es change, heap e.item = none := by
  intro e member
  cases change with
  | append m f =>
    simp only [Change.on] at member
    split at member
    · rcases List.mem_append.mp member with old | new
      · exact items e old
      · rw [List.mem_singleton.mp new]
        exact spares.2
    · exact items e member
  | replace item content =>
    obtain ⟨f, old, rfl⟩ := List.mem_map.mp member
    rw [Entry.refill_item]
    exact items f old

theorem foldl_on_spared {heap : Heap} {l : Addr} {es : List Entry} (list : heap.IsList l)
    (items : ∀ e ∈ es, heap e.item ≠ none) (spares : ∀ change ∈ changes, change.Spares heap) :
    changes.foldl (Change.on l) es = es := by
  induction changes with
  | nil => rfl
  | cons change changes ih =>
    rw [List.foldl_cons, on_spared list items (spares change (.head _))]
    exact ih fun other member => spares other (.tail _ member)

theorem beside_foldl_on {heap : Heap} {l : Addr} {es : List Entry}
    (items : ∀ e ∈ es, heap e.item = none) (spares : ∀ change ∈ changes, change.Spares heap) :
    ∀ e ∈ changes.foldl (Change.on l) es, heap e.item = none := by
  induction changes generalizing es with
  | nil => exact items
  | cons change changes ih =>
    exact ih (beside_on items (spares change (.head _)))
      fun other member => spares other (.tail _ member)

/-- Writes that spare the picture and keep its cells go on beside it. -/
theorem Extends.evolves (keeps : p.Extends q) (formed : p.heap.Formed p.lists)
    (evolves : q.Evolves changes r) (spares : ∀ change ∈ changes, change.Spares p.heap)
    (stays : ∀ x c, p.heap x = some c → q.heap x = some c → r.heap x = some c) :
    p.Extends r := by
  constructor
  · exact fun x c found => stays x c found (keeps.cells x c found)
  · intro l list
    rw [evolves.lists, keeps.lists l list]
    apply foldl_on_spared list _ spares
    intro e member
    obtain ⟨i, found⟩ := List.getElem?_of_mem member
    simp [formed.item l i e found]
  · intro l unlisted
    rw [evolves.lists]
    exact beside_foldl_on (keeps.beside l unlisted) spares

theorem Extends.quiet (keeps : p.Extends q) (formed : p.heap.Formed p.lists)
    (evolves : q.Evolves [] r)
    (stays : ∀ x c, p.heap x = some c → q.heap x = some c → r.heap x = some c) : p.Extends r :=
  keeps.evolves formed evolves nofun stays

theorem Extends.add (keeps : p.Extends q) {a b : Arena} {c : Cell} {h : Handle}
    (creates : Arena.Creates a q.heap c h b) (room : PageStore.Room) :
    p.Extends (q.add h.addr c room) :=
  ⟨fun x d found => Heap.put_fresh creates.fresh (keeps.cells x d found) c, keeps.lists,
    keeps.beside⟩

/-- An append to a further list goes on beside the picture. -/
theorem Extends.append (keeps : p.Extends q) (formed : p.heap.Formed p.lists) {a b : Arena}
    {l : Addr} {content item kept : Handle} (further : p.heap l = none)
    (appends : a.Appended q l content item kept b r) : p.Extends r := by
  apply keeps.evolves formed appends.evolves
  · intro change member
    rw [List.mem_singleton.mp member]
    exact ⟨further, keeps.fresh appends.fresh⟩
  · exact fun x c found found_q => appends.stays x c found_q (keeps.apart further found)

/-- `q` has all of `p` as it was, and of further cells only these. -/
structure ExtendsBy (p : Picture) (new : List Descriptor) (q : Picture) : Prop where
  keeps : p.Extends q
  cells : ∀ d ∈ new, ∃ c, Arena.Matches q.heap d c
  fresh : ∀ d ∈ new, p.heap d.addr = none
  apart : (new.map Descriptor.addr).Nodup
  only : ∀ x, p.heap x = none → x ∉ new.map Descriptor.addr → q.heap x = none

variable {new : List Descriptor}

theorem ExtendsBy.refl (formed : p.heap.Formed p.lists) : p.ExtendsBy [] p :=
  ⟨.refl formed, nofun, nofun, .nil, fun _ absent _ => absent⟩

theorem matches_grows {heap heap' : Heap} {d : Descriptor} (grows : heap.Grows heap')
    (given : ∃ c, Arena.Matches heap d c) : ∃ c, Arena.Matches heap' d c := by
  obtain ⟨c, found, named⟩ := given
  obtain ⟨e, after, becomes⟩ := grows d.addr c found
  exact ⟨e, after, by rw [becomes.kind, becomes.size]; exact named⟩

/-- Values change in place and nothing is new. -/
theorem ExtendsBy.quiet (more : p.ExtendsBy new q) (keeps : p.Extends r)
    (grows : q.heap.Grows r.heap) (only : ∀ x, q.heap x = none → r.heap x = none) :
    p.ExtendsBy new r :=
  ⟨keeps, fun d member => matches_grows grows (more.cells d member), more.fresh, more.apart,
    fun x absent other => only x (more.only x absent other)⟩

/-- One cell is new. -/
theorem ExtendsBy.cons (more : p.ExtendsBy new q) (keeps : p.Extends r)
    (grows : q.heap.Grows r.heap) {x : Addr} {c : Cell} (fresh : q.heap x = none)
    (found : r.heap x = some c) (only : ∀ y, q.heap y = none → y ≠ x → r.heap y = none) :
    p.ExtendsBy (⟨c.kind, c.size, x⟩ :: new) r := by
  refine ⟨keeps, ?_, ?_, ?_, ?_⟩
  · intro d member
    rcases List.mem_cons.mp member with rfl | old
    · exact ⟨c, found, rfl⟩
    · exact matches_grows grows (more.cells d old)
  · intro d member
    rcases List.mem_cons.mp member with rfl | old
    · exact more.keeps.fresh fresh
    · exact more.fresh d old
  · refine List.nodup_cons.mpr ⟨fun given => ?_, more.apart⟩
    obtain ⟨d, old, same⟩ := List.mem_map.mp given
    obtain ⟨e, at_d, _⟩ := more.cells d old
    exact Heap.ne_of_fresh at_d fresh same
  · intro y absent other
    rw [List.map_cons, List.mem_cons, not_or] at other
    exact only y (more.only y absent other.2) other.1

theorem ExtendsBy.add (more : p.ExtendsBy new q) {a b : Arena} {c : Cell} {h : Handle}
    (creates : Arena.Creates a q.heap c h b) (room : PageStore.Room) :
    p.ExtendsBy (⟨c.kind, c.size, h.addr⟩ :: new) (q.add h.addr c room) :=
  more.cons (more.keeps.add creates room) (Heap.grows_put_fresh creates.fresh c) creates.fresh
    (Heap.put_self ..) fun _ absent other => (Heap.put_other other).trans absent

/-- Of an append of a value that is there the item is new. -/
theorem ExtendsBy.append (more : p.ExtendsBy new q) (formed : p.heap.Formed p.lists) {a b : Arena}
    {l : Addr} {content item kept : Handle} (further : p.heap l = none)
    (appends : a.Appended q l content item kept b r) {c : Cell}
    (stored : q.heap kept.addr = some c) :
    p.ExtendsBy (⟨.listItem, (Cell.item kept.addr .null).size, item.addr⟩ :: new) r :=
  more.cons (more.keeps.append formed further appends) appends.evolves.grows appends.fresh
    appends.cell fun y absent other =>
      appends.only y absent other (Heap.ne_of_fresh stored absent).symm

/-- A sweep meets what it met before and the further cells. -/
theorem ExtendsBy.tile_iff (more : p.ExtendsBy new q) {a b : Arena} (shows : a.Shows p)
    (shows_b : b.Shows q) (d : Descriptor) : b.Tile d ↔ a.Tile d ∨ d ∈ new := by
  constructor
  · intro tile
    obtain ⟨c, found, named⟩ := tile.cell shows_b.holds
    cases before : p.heap d.addr with
    | some e =>
      obtain rfl := Option.some.inj ((more.keeps.cells _ e before).symm.trans found)
      left
      rw [named]
      exact Arena.tile_of_holds shows.holds before
    | none =>
      have listed : d.addr ∈ new.map Descriptor.addr := by
        by_contra other
        exact nomatch (more.only _ before other).symm.trans found
      obtain ⟨e, member, same⟩ := List.mem_map.mp listed
      obtain ⟨c', found', named'⟩ := more.cells e member
      rw [same] at found' named'
      obtain rfl := Option.some.inj (found'.symm.trans found)
      right
      rw [named, ← named']
      exact member
  · intro given
    rcases given with tile | member
    · obtain ⟨c, found, named⟩ := tile.cell shows.holds
      rw [named]
      exact Arena.tile_of_holds shows_b.holds (more.keeps.cells _ c found)
    · obtain ⟨c, found, named⟩ := more.cells d member
      rw [named]
      exact Arena.tile_of_holds shows_b.holds found

end Picture
end ValueArena
