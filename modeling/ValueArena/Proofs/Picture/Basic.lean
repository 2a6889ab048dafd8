import ValueArena.Proofs.Links.Fields
import ValueArena.Proofs.Links.Formed
import ValueArena.Proofs.Memory.Lapses

/-!
Pictures of an arena: its heap, the sequence that each list stands for, how many times a list was
written, and the room that is left. An arena that shows a picture keeps showing one whatever is
done to it, and the sequences change by the writes alone.
-/
namespace ValueArena

structure Picture where
  heap : Heap
  lists : Addr → List Entry
  /-- The writes that changed a list, not wrapped. -/
  writes : Nat
  room : PageStore.Room

structure Arena.Shows (a : Arena) (p : Picture) : Prop where
  holds : a.store.Holds p.heap
  formed : p.heap.Formed p.lists
  generation : a.generation = UInt64.ofNat p.writes
  room : a.store.room = p.room

namespace Picture

def empty (config : Config) : Picture := ⟨Heap.empty, fun _ => [], 0, (PageStore.empty config).room⟩

def put (p : Picture) (addr : Addr) (c : Cell) : Picture := { p with heap := p.heap.put addr c }

/-- A cell more, which took some room. -/
def add (p : Picture) (addr : Addr) (c : Cell) (room : PageStore.Room) : Picture :=
  { p with heap := p.heap.put addr c, room }

/-- The address is not that of the list, nor of an item in it. -/
def Apart (p : Picture) (l x : Addr) : Prop := x ≠ l ∧ ∀ e ∈ p.lists l, x ≠ e.item

/-- `q` comes from `p` by these writes to lists, and by any that do not touch a list. -/
structure Evolves (p : Picture) (changes : List Change) (q : Picture) : Prop where
  grows : p.heap.Grows q.heap
  lists : ∀ l, q.lists l = changes.foldl (Change.on l) (p.lists l)
  writes : q.writes = p.writes + changes.length
  /-- A new object comes with two new lists. -/
  objects : ∀ o keys values, q.heap o = some (.object keys values) →
    p.heap o = some (.object keys values) ∨ p.heap keys = none ∧ p.heap values = none
  room : p.room.Leads q.room

variable {p q r : Picture} {first second changes : List Change}

theorem Evolves.refl (p : Picture) : p.Evolves [] p :=
  ⟨.refl _, fun _ => rfl, rfl, fun _ _ _ found => .inl found, .refl _⟩

theorem Evolves.fresh (evolves : p.Evolves changes q) {addr : Addr} (fresh : q.heap addr = none) :
    p.heap addr = none := evolves.grows.fresh fresh

theorem Evolves.trans (left : p.Evolves first q) (right : q.Evolves second r) :
    p.Evolves (first ++ second) r := by
  refine ⟨left.grows.trans right.grows, ?_, ?_, ?_, left.room.trans right.room⟩
  · intro l
    rw [right.lists, left.lists, List.foldl_append]
  · rw [right.writes, left.writes, List.length_append, Nat.add_assoc]
  · intro o keys values found
    rcases right.objects o keys values found with before | ⟨fresh_keys, fresh_values⟩
    · exact left.objects o keys values before
    · exact .inr ⟨left.fresh fresh_keys, left.fresh fresh_values⟩

theorem Evolves.quiet_trans (left : p.Evolves [] q) (right : q.Evolves changes r) :
    p.Evolves changes r := left.trans right

theorem Evolves.trans_quiet (left : p.Evolves changes q) (right : q.Evolves [] r) :
    p.Evolves changes r := by simpa using left.trans right

/-- As long as no list is written the sequences stay. -/
theorem Evolves.lists_eq (evolves : p.Evolves [] q) : q.lists = p.lists := funext evolves.lists

theorem evolves_add {addr : Addr} {c : Cell} {room : PageStore.Room}
    (grows : p.heap.Grows (p.heap.put addr c)) (other : ∀ keys values, c ≠ .object keys values)
    (leads : p.room.Leads room) : p.Evolves [] (p.add addr c room) := by
  refine ⟨grows, fun _ => rfl, rfl, ?_, leads⟩
  intro o keys values found
  rcases Heap.put_eq_some found with ⟨_, eq⟩ | ⟨_, before⟩
  · exact absurd eq.symm (other keys values)
  · exact .inl before

/-- A new object whose lists were not there either. -/
theorem Evolves.add_object (evolves : p.Evolves [] q) {addr keys values : Addr}
    {room : PageStore.Room} (fresh : q.heap addr = none) (new_keys : p.heap keys = none)
    (new_values : p.heap values = none) (leads : q.room.Leads room) :
    p.Evolves [] (q.add addr (.object keys values) room) := by
  have grows := evolves.grows.trans (Heap.grows_put_fresh fresh (.object keys values))
  refine ⟨grows, evolves.lists, evolves.writes, ?_, evolves.room.trans leads⟩
  intro o k v found
  rcases Heap.put_eq_some found with ⟨_, eq⟩ | ⟨_, before⟩
  · cases eq
    exact .inr ⟨new_keys, new_values⟩
  · exact evolves.objects o k v before

/-- Plain values lie apart from every list. -/
theorem apart_of_plain (formed : p.heap.Formed p.lists) {l x : Addr} (list : p.heap.IsList l)
    {content : Content} (found : p.heap x = some (.plain content)) : p.Apart l x := by
  obtain ⟨_, _, _, at_l⟩ := list
  refine ⟨Heap.ne_of_cells found at_l nofun, fun e member => ?_⟩
  obtain ⟨i, at_i⟩ := List.getElem?_of_mem member
  exact Heap.ne_of_cells found (formed.item l i e at_i) nofun

end Picture

namespace Arena

/-- There is no room for another item, however high the ceiling: not in the last page, and the page
numbers are used up or the system refuses a new page. -/
def Exhausted (a : Arena) : Prop := a.store.room.Exhausted itemLength

instance (a : Arena) : Decidable a.Exhausted :=
  inferInstanceAs (Decidable (a.store.room.Exhausted itemLength))

/-- How often there may have been no room for another item. -/
def lapses (a : Arena) : Nat := a.store.room.lapses itemLength

variable {a b : Arena} {p : Picture}

theorem Shows.exhausted_iff (shows : a.Shows p) : a.Exhausted ↔ p.room.Exhausted itemLength := by
  rw [Exhausted, shows.room]

theorem Shows.lapses_eq (shows : a.Shows p) : a.lapses = p.room.lapses itemLength := by
  rw [lapses, shows.room]

theorem empty_shows (config : Config) : (empty config).Shows (.empty config) :=
  ⟨PageStore.empty_holds config, Heap.empty_formed, rfl, rfl⟩

theorem Shows.addr_ne_null (shows : a.Shows p) {addr : Addr} {c : Cell}
    (found : p.heap addr = some c) : addr ≠ .null := shows.holds.ne_null found

theorem Creates.addr_ne_null {heap : Heap} {c : Cell} {h : Handle}
    (creates : Creates a heap c h b) : h.addr ≠ .null := creates.holds.ne_null (Heap.put_self _ _ _)

theorem Creates.handle_eq {heap : Heap} {c : Cell} {h : Handle} (creates : Creates a heap c h b) :
    h = (heap.put h.addr c).handleAt h.addr := by
  rw [Heap.handleAt_of_some (Heap.put_self ..)]
  exact creates.handle

theorem Creates.issued {heap : Heap} {c : Cell} {h : Handle} (creates : Creates a heap c h b) :
    (heap.put h.addr c).Issued h := by
  have issued := Heap.issued_handleAt creates.holds.null h.addr
  rw [← creates.handle_eq] at issued
  exact issued

/-- Creating a value takes room from the last page or opens another. -/
theorem Shows.room_leads (shows : a.Shows p) {c : Cell} {h : Handle}
    (creates : Creates a p.heap c h b) : p.room.Leads b.store.room := by
  rw [← shows.room]
  exact PageStore.Room.leads_of_reserve creates.room

/-- A cell more is a cell more of the picture if the links stay formed. -/
theorem Shows.add_cell (shows : a.Shows p) {c : Cell} {h : Handle}
    (creates : Creates a p.heap c h b) (formed : (p.heap.put h.addr c).Formed p.lists) :
    b.Shows (p.add h.addr c b.store.room) :=
  ⟨creates.holds, formed, creates.generation.trans shows.generation, rfl⟩

/-- A value without links is added to the picture. -/
theorem Shows.create (shows : a.Shows p) {content : Content} {h : Handle}
    (creates : Creates a p.heap (.plain content) h b) :
    b.Shows (p.add h.addr (.plain content) b.store.room) ∧
      p.Evolves [] (p.add h.addr (.plain content) b.store.room) := by
  have grows := Heap.grows_put_fresh creates.fresh (.plain content)
  refine ⟨shows.add_cell creates ?_, Picture.evolves_add grows nofun (shows.room_leads creates)⟩
  apply shows.formed.put_plain creates.addr_ne_null grows
  intro c found
  rw [creates.fresh] at found
  cases found

theorem Shows.create_list (shows : a.Shows p) {h : Handle}
    (creates : Creates a p.heap (.list .null .null 0) h b) :
    b.Shows (p.add h.addr (.list .null .null 0) b.store.room) ∧
      p.Evolves [] (p.add h.addr (.list .null .null 0) b.store.room) := by
  have grows := Heap.grows_put_fresh creates.fresh (.list .null .null 0)
  have formed := shows.formed.put_list creates.addr_ne_null creates.fresh
  exact ⟨shows.add_cell creates formed,
    Picture.evolves_add grows nofun (shows.room_leads creates)⟩

/-- A number overwritten by one of its own kind. -/
theorem Shows.rewrite_plain (shows : a.Shows p) {addr : Addr} {old new : Content}
    (found : p.heap addr = some (.plain old))
    (becomes : (Cell.plain old).Becomes (.plain new))
    (rewrites : a.Rewrites (p.heap.put addr (.plain new)) b) :
    b.Shows (p.put addr (.plain new)) ∧ p.Evolves [] (p.put addr (.plain new)) := by
  have grows := Heap.grows_put found becomes
  refine ⟨⟨rewrites.holds, ?_, ?_, rewrites.room.trans shows.room⟩,
    Picture.evolves_add grows nofun (.refl _)⟩
  · apply shows.formed.put_plain (shows.addr_ne_null found) grows
    intro c at_addr
    rw [found] at at_addr
    exact ⟨old, (Option.some.inj at_addr).symm⟩
  · rw [rewrites.generation]
    exact shows.generation

end Arena
end ValueArena
