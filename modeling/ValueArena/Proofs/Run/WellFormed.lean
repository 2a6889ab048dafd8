import ValueArena.Proofs.Heap.Sweep
import ValueArena.Proofs.Run.Program

/-!
Programs leave the arena well formed: each page is a row of values from its start to the end of
what was given out, and every link leads to the start of a value of the right kind, or is null
where it may be.
-/
namespace ValueArena.Arena

variable {T : Type → Type → Type} [KeyMap T]

/-- Null, or where a value of such a kind starts. -/
def LeadsTo (a : Arena) (kinds : Kind → Prop) (addr : Addr) : Prop :=
  addr = .null ∨ ∃ kind, a.Starts kind addr ∧ kinds kind

/-- The links that a value holds can be read, and lead where they should. -/
structure Linked (a : Arena) (d : Descriptor) : Prop where
  list : d.kind = .list → ∃ first last, a.loadField Addr d.addr .listFirst = .ok first ∧
    a.loadField Addr d.addr .listLast = .ok last ∧
    a.LeadsTo (· = .listItem) first ∧ a.LeadsTo (· = .listItem) last
  item : d.kind = .listItem → ∃ content next, a.loadField Addr d.addr .itemContent = .ok content ∧
    a.loadField Addr d.addr .itemNext = .ok next ∧
    a.LeadsTo (· ≠ .none) content ∧ a.LeadsTo (· = .listItem) next
  object : d.kind = .object → ∃ keys values, a.loadField Addr d.addr .objectKeys = .ok keys ∧
    a.loadField Addr d.addr .objectValues = .ok values ∧ keys ≠ .null ∧ values ≠ .null ∧
    a.LeadsTo (· = .list) keys ∧ a.LeadsTo (· = .list) values

structure WellFormed (a : Arena) : Prop where
  /-- The bytes given out from a page are those of its values, which a sweep meets in order. -/
  pages : ∀ (i : Nat) (page : Page), a.store.pages[i]? = some page → ∃ cells ds,
    page.contents = Cell.join cells ∧ a.Sweep (UInt32.ofNat i) 0 ds page.used ∧
      List.Forall₂ (fun d c => d.kind = c.kind ∧ d.size.toNat = c.payload.length) ds cells
  links : ∀ d, a.Tile d → a.Linked d

variable {a : Arena} {p : Picture}

theorem leadsTo_of_holds (shows : a.Shows p) {addr : Addr} {c : Cell} (found : p.heap addr = some c)
    {kinds : Kind → Prop} (kind : kinds c.kind) : a.LeadsTo kinds addr :=
  .inr ⟨c.kind, (starts_iff shows.holds).mpr ⟨c, found, rfl⟩, kind⟩

/-- The items of a list, and what is past them. -/
theorem leadsTo_itemAt (shows : a.Shows p) (l : Addr) (i : Nat) :
    a.LeadsTo (· = .listItem) (itemAt (p.lists l) i) := by
  cases found : (p.lists l)[i]? with
  | none => exact .inl (itemAt_of_length_le (List.getElem?_eq_none_iff.mp found))
  | some e =>
    rw [itemAt_of_getElem? found]
    exact leadsTo_of_holds shows (shows.formed.item l i e found) rfl

theorem leadsTo_isList (shows : a.Shows p) {addr : Addr} (list : p.heap.IsList addr) :
    addr ≠ .null ∧ a.LeadsTo (· = .list) addr := by
  obtain ⟨first, last, count, found⟩ := list
  exact ⟨shows.addr_ne_null found, leadsTo_of_holds shows found rfl⟩

theorem linked_of_cell (shows : a.Shows p) {d : Descriptor} {c : Cell}
    (found : p.heap d.addr = some c) (kind : d.kind = c.kind) : a.Linked d := by
  constructor
  · intro list
    obtain ⟨first, last, count, rfl⟩ := Cell.eq_list_of_kind (kind ▸ list)
    obtain ⟨rfl, rfl, _⟩ := shows.formed.header _ _ _ _ found
    have lies := shows.holds.lies found
    exact ⟨_, _, load_listFirst lies, load_listLast lies,
      leadsTo_itemAt shows _ _, leadsTo_itemAt shows _ _⟩
  · intro item
    obtain ⟨content, next, rfl⟩ := Cell.eq_item_of_kind (kind ▸ item)
    obtain ⟨l, i, at_i⟩ := shows.formed.owned _ _ _ found
    have at_item := shows.formed.item l i _ at_i
    rw [found] at at_item
    cases at_item
    have lies := shows.holds.lies found
    refine ⟨_, _, load_itemContent lies, load_itemNext lies, ?_, leadsTo_itemAt shows l (i + 1)⟩
    rcases shows.formed.content l i _ at_i with null | ⟨c, at_content, some_kind⟩
    · exact .inl null
    · exact leadsTo_of_holds shows at_content some_kind
  · intro object
    obtain ⟨keys, values, rfl⟩ := Cell.eq_object_of_kind (kind ▸ object)
    obtain ⟨keys_list, values_list, _⟩ := shows.formed.object _ _ _ found
    obtain ⟨keys_some, to_keys⟩ := leadsTo_isList shows keys_list
    obtain ⟨values_some, to_values⟩ := leadsTo_isList shows values_list
    have lies := shows.holds.lies found
    exact ⟨_, _, load_objectKeys lies, load_objectValues lies, keys_some, values_some, to_keys,
      to_values⟩

theorem Shows.wellFormed (shows : a.Shows p) : a.WellFormed := by
  constructor
  · intro i page found
    obtain ⟨cells, ds, contents, sweep, matched⟩ := sweep_of_holds shows.holds found
    refine ⟨cells, ds, contents, sweep, matched.imp ?_⟩
    intro d c given
    obtain ⟨at_d, named⟩ := given
    have size := (shows.holds.lies at_d).toNat_size
    rw [named]
    exact ⟨rfl, size⟩
  · intro d tile
    obtain ⟨c, at_d, named⟩ := tile.cell shows.holds
    exact linked_of_cell shows at_d (by rw [named])

/-- Whatever commands have run, the arena is well formed. -/
theorem wellFormed_after (r : Registry T) (config : Config) (program : List Statement)
    (allowed : ∀ s ∈ program, s.command.isPublic = true) :
    (Statement.after r config program).2.WellFormed := by
  obtain ⟨p, shows, _, _⟩ := Statement.after_shows r config allowed
  exact shows.wellFormed

theorem wellFormed_after_sample :
    (Statement.after .empty ⟨64, none⟩ Statement.sample).2.pageCount = 3 ∧
      (Statement.after .empty ⟨64, none⟩ Statement.sample).2.WellFormed :=
  ⟨by decide +kernel, wellFormed_after .empty ⟨64, none⟩ Statement.sample (by decide)⟩

end ValueArena.Arena
