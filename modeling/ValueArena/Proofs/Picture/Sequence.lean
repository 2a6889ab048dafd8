import ValueArena.Proofs.Heap.Sweep
import ValueArena.Proofs.Picture.Basic

/-!
The sequence that a list stands for, as the arena itself tells it: by the links from item to item
and by the header. An arena that shows a picture stands for the sequences of that picture and for
no others.
-/
namespace ValueArena.Arena

/-- The links from an address on lead over these items, each with its content, and end at null. -/
inductive Path (a : Arena) : Addr → List Entry → Prop where
  | stop : Path a .null []
  | item {e : Entry} {next : Addr} {es : List Entry} (starts : a.Starts .listItem e.item)
      (content : a.loadField Addr e.item .itemContent = .ok e.content)
      (link : a.loadField Addr e.item .itemNext = .ok next) (tail : Path a next es) :
      Path a e.item (e :: es)

/-- The list at an address stands for these entries. -/
structure Represents (a : Arena) (l : Addr) (es : List Entry) : Prop where
  list : a.Starts .list l
  count : ∃ n, a.loadField UInt32 l .listCount = .ok n ∧ n.toNat = es.length
  first : ∃ addr, a.loadField Addr l .listFirst = .ok addr ∧ a.Path addr es ∧
    (addr = .null ↔ es = [])
  last : ∃ addr, a.loadField Addr l .listLast = .ok addr ∧
    addr = (es.getLast?.map Entry.item).getD .null ∧ (addr = .null ↔ es = [])
  distinct : (es.map Entry.item).Nodup

/-- A handle of a value that the second arena has and the first one had not. -/
def Makes (a b : Arena) (h : Handle) : Prop := a.Vacant h.addr ∧ b.decode h.addr = .ok h

/-- What an item stores for a handle: a new double for an immediate, nothing for anything of kind
none, and the address of any other value. -/
def Stores (a b : Arena) : Handle → Addr → Prop
  | .immediate v, addr => ∃ h, h.addr = addr ∧ a.Makes b h ∧ h.kind = .double ∧
    b.readDouble h = .ok (.ofInt v.toInt)
  | .stored d, addr => addr = if d.kind = .none then .null else d.addr

variable {a : Arena} {p : Picture} {l m : Addr} {es fs : List Entry}

theorem Path.unique (shows : a.Shows p) {addr : Addr} (left : a.Path addr es)
    (right : a.Path addr fs) : es = fs := by
  have some_item : ∀ {addr}, a.Starts .listItem addr → addr ≠ .null := by
    intro addr starts
    obtain ⟨c, found, _⟩ := (starts_iff shows.holds).mp starts
    exact shows.addr_ne_null found
  induction left generalizing fs with
  | stop =>
    generalize null : Addr.null = addr at right
    cases right with
    | stop => rfl
    | item starts => exact absurd null.symm (some_item starts)
  | @item e next es starts content link tail ih =>
    generalize same : e.item = addr at right
    cases right with
    | stop => exact absurd same (some_item starts)
    | @item f next' fs starts' content' link' tail' =>
      rw [← same] at content' link'
      rw [content] at content'
      rw [link] at link'
      cases link'
      have entry : e = f := by
        cases e
        cases f
        cases same
        cases content'
        rfl
      rw [entry, ih tail']

theorem isList_iff (shows : a.Shows p) : a.Starts .list l ↔ p.heap.IsList l := by
  rw [starts_iff shows.holds]
  constructor
  · intro given
    obtain ⟨c, found, kind⟩ := given
    exact Heap.isList_of_kind found kind
  · intro given
    obtain ⟨first, last, count, found⟩ := given
    exact ⟨_, found, rfl⟩

/-- From each place of a sequence the links lead over the rest of it. -/
theorem path_of_formed (shows : a.Shows p) (l : Addr) (i : Nat) :
    a.Path (itemAt (p.lists l) i) ((p.lists l).drop i) := by
  induction left : (p.lists l).length - i generalizing i with
  | zero =>
    rw [itemAt_of_length_le (by omega), List.drop_eq_nil_of_le (by omega)]
    exact .stop
  | succ n ih =>
    have inside : i < (p.lists l).length := by omega
    have at_i := List.getElem?_eq_getElem inside
    have cell := shows.formed.item l i _ at_i
    rw [itemAt_of_getElem? at_i, List.drop_eq_getElem_cons inside]
    have lies := shows.holds.lies cell
    exact .item ((starts_iff shows.holds).mpr ⟨_, cell, rfl⟩) (load_itemContent lies)
      (load_itemNext lies) (ih (i + 1) (by omega))

theorem itemAt_eq_null_iff (shows : a.Shows p) (i : Nat) :
    itemAt (p.lists l) i = .null ↔ (p.lists l).length ≤ i := by
  constructor
  · intro null
    cases at_i : (p.lists l)[i]? with
    | none => exact List.getElem?_eq_none_iff.mp at_i
    | some e =>
      rw [itemAt_of_getElem? at_i] at null
      exact absurd null (shows.addr_ne_null (shows.formed.item l i e at_i))
  · exact itemAt_of_length_le

theorem nodup_items (shows : a.Shows p) (l : Addr) : ((p.lists l).map Entry.item).Nodup := by
  rw [List.Nodup, List.pairwise_iff_getElem]
  intro i j inside_i inside_j less same
  rw [List.length_map] at inside_i inside_j
  simp only [List.getElem_map] at same
  obtain ⟨_, equal⟩ := shows.formed.apart l i _ l j _ (List.getElem?_eq_getElem inside_i)
    (List.getElem?_eq_getElem inside_j) same
  omega

/-- Every list of the arena stands for its sequence in the picture. -/
theorem Shows.represents (shows : a.Shows p) (list : p.heap.IsList l) :
    a.Represents l (p.lists l) := by
  obtain ⟨first, last, count, found⟩ := list
  obtain ⟨rfl, rfl, length⟩ := shows.formed.header l _ _ _ found
  refine ⟨(isList_iff shows).mpr ⟨_, _, _, found⟩,
    ⟨count, load_listCount (shows.holds.lies found), length⟩,
    ⟨_, load_listFirst (shows.holds.lies found), path_of_formed shows l 0, ?_⟩,
    ⟨_, load_listLast (shows.holds.lies found), ?_, ?_⟩, nodup_items shows l⟩
  · rw [itemAt_eq_null_iff shows, Nat.le_zero, List.length_eq_zero_iff]
  · rw [List.getLast?_eq_getElem?]
    rfl
  · rw [itemAt_eq_null_iff shows, ← List.length_eq_zero_iff]
    omega

theorem Represents.eq_lists (shows : a.Shows p) (represents : a.Represents l es) :
    es = p.lists l := by
  obtain ⟨addr, loaded, path, _⟩ := represents.first
  obtain ⟨addr', loaded', path', _⟩ :=
    (shows.represents ((isList_iff shows).mp represents.list)).first
  rw [loaded] at loaded'
  cases loaded'
  exact path.unique shows path'

/-- No item belongs to two lists. -/
theorem Represents.apart (shows : a.Shows p) (left : a.Represents l es) (right : a.Represents m fs)
    {e f : Entry} (at_e : e ∈ es) (at_f : f ∈ fs) (same : e.item = f.item) : l = m := by
  rw [left.eq_lists shows] at at_e
  rw [right.eq_lists shows] at at_f
  obtain ⟨i, at_i⟩ := List.getElem?_of_mem at_e
  obtain ⟨j, at_j⟩ := List.getElem?_of_mem at_f
  exact (shows.formed.apart l i e m j f at_i at_j same).1

end ValueArena.Arena
