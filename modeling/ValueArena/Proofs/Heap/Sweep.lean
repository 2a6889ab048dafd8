import Mathlib.Data.List.Forall2
import ValueArena.Proofs.Heap.Reading

/-!
Sweeps over a page: from an offset on, every value is decoded and the next one is looked for right
behind it. On a page of a heap there is one sweep, it meets the cells of the page in order and ends
where the page does.
-/
namespace ValueArena.Arena

/-- A sweep that begins at one offset of a page, meets these values and ends at another offset. -/
inductive Sweep (a : Arena) (page : UInt32) : Nat → List Descriptor → Nat → Prop where
  | stop (offset : Nat) : Sweep a page offset [] offset
  | value {offset : UInt32} {addr : Addr} {d : Descriptor} {ds : List Descriptor} {stop : Nat}
      (here : Addr.make? page offset = some addr) (decoded : a.decode addr = .ok (.stored d))
      (tail : Sweep a page (offset.toNat + (1 + d.size.toNat)) ds stop) :
      Sweep a page offset.toNat (d :: ds) stop

/-- A value that a sweep over a whole page meets. -/
def Tile (a : Arena) (d : Descriptor) : Prop :=
  ∃ (i : Nat) (page : Page) (ds : List Descriptor), a.store.pages[i]? = some page ∧
    a.Sweep (UInt32.ofNat i) 0 ds page.used ∧ d ∈ ds

/-- An address where a value of this kind starts. -/
def Starts (a : Arena) (kind : Kind) (addr : Addr) : Prop :=
  ∃ d, a.Tile d ∧ d.addr = addr ∧ d.kind = kind

/-- An address where no value starts. -/
def Vacant (a : Arena) (addr : Addr) : Prop := ∀ kind, ¬ a.Starts kind addr

variable {a : Arena} {heap : Heap} {page : UInt32}

theorem Sweep.start_le {start stop : Nat} {ds : List Descriptor}
    (sweep : a.Sweep page start ds stop) : start + ds.length ≤ stop := by
  induction sweep with
  | stop offset => simp
  | value here decoded tail ih =>
    simp only [List.length_cons]
    omega

/-- There is no other way to sweep over the same bytes. -/
theorem Sweep.unique {start stop : Nat} {ds es : List Descriptor}
    (left : a.Sweep page start ds stop) (right : a.Sweep page start es stop) : ds = es := by
  induction left generalizing es with
  | stop offset =>
    have := right.start_le
    exact (List.eq_nil_of_length_eq_zero (by omega)).symm
  | @value offset addr d ds stop here decoded tail ih =>
    generalize same : offset.toNat = start at right
    cases right with
    | stop =>
      have := tail.start_le
      omega
    | @value other _ _ _ _ here' decoded' tail' =>
      obtain rfl : offset = other := UInt32.toNat_inj.mp same
      rw [here] at here'
      cases here'
      rw [decoded] at decoded'
      cases decoded'
      rw [ih tail']

theorem Sweep.append {start middle stop : Nat} {ds es : List Descriptor}
    (left : a.Sweep page start ds middle) (right : a.Sweep page middle es stop) :
    a.Sweep page start (ds ++ es) stop := by
  induction left with
  | stop offset => exact right
  | value here decoded tail ih => exact .value here decoded (ih right)

/-- A descriptor names a cell by its kind and the length of its payload. -/
structure Matches (heap : Heap) (d : Descriptor) (c : Cell) : Prop where
  cell : heap d.addr = some c
  named : d = ⟨c.kind, c.size, d.addr⟩

variable {rows : Nat → Option (List Cell)}

theorem find?_boundary (c : Cell) (before after : List Cell) :
    Cell.find? (before ++ c :: after) (Cell.join before).length = some c := by
  rw [Cell.find?_replace (c := c) rfl, if_pos rfl]

/-- The address of a cell within a row. -/
theorem addr_of_row {c : Cell} {before after : List Cell} (below : page < 0xFFFFFFFF)
    (row : rows page.toNat = some (before ++ c :: after))
    (fits : (Cell.join before).length ≤ 0xFFFFFFFF) :
    ∃ (offset : UInt32) (addr : Addr), offset.toNat = (Cell.join before).length ∧
      Addr.make? page offset = some addr ∧ Heap.ofRows rows addr = some c := by
  have offset : (UInt32.ofNat (Cell.join before).length).toNat = (Cell.join before).length := by
    rw [UInt32.toNat_ofNat', Nat.mod_eq_of_lt (by omega)]
  obtain ⟨addr, here⟩ :
      ∃ addr, Addr.make? page (UInt32.ofNat (Cell.join before).length) = some addr := by
    simp [Addr.make?, below]
  refine ⟨_, addr, offset, here, ?_⟩
  simp only [Heap.ofRows, Addr.page?_of_make? here, Option.bind_some, row,
    Addr.offset_of_make? here, offset]
  exact find?_boundary c before after

/-- Between two cells of a row a sweep meets the cells that lie there. -/
theorem sweep_of_row (holds : a.store.Holds (Heap.ofRows rows)) (below : page < 0xFFFFFFFF)
    (before cells after : List Cell) (fits : (Cell.join (before ++ cells)).length ≤ 0xFFFFFFFF)
    (row : rows page.toNat = some (before ++ (cells ++ after))) :
    ∃ ds, a.Sweep page (Cell.join before).length ds (Cell.join (before ++ cells)).length ∧
      List.Forall₂ (Matches (Heap.ofRows rows)) ds cells := by
  -- On the cells that are left: those that were met move over to the ones before.
  induction cells generalizing before with
  | nil =>
    rw [List.append_nil]
    exact ⟨[], .stop _, .nil⟩
  | cons c cells ih =>
    have next : before ++ c :: cells = before ++ [c] ++ cells := by simp
    have within : (Cell.join before).length ≤ 0xFFFFFFFF := by
      rw [Cell.join_append, List.length_append] at fits
      omega
    obtain ⟨offset, addr, position, here, found⟩ := addr_of_row below row within
    rw [next] at fits
    obtain ⟨ds, tail, matched⟩ := ih (before ++ [c]) fits (by rw [row]; simp)
    have decoded := decode_of_holds holds found
    rw [Heap.handleAt_of_some found] at decoded
    have size := (holds.lies found).toNat_size
    refine ⟨⟨c.kind, c.size, addr⟩ :: ds, ?_, .cons ⟨found, rfl⟩ matched⟩
    rw [next, ← position]
    refine .value here decoded ?_
    rw [position, size]
    simpa [Cell.bytes_length, Nat.add_comm] using tail

/-- The page that a row of cells lies on. -/
theorem page_of_row (holds : a.store.Holds (Heap.ofRows rows))
    (laid : ∀ i, a.store.row? i = (rows i).map Cell.join) {i : Nat} {cells : List Cell}
    (row : rows i = some cells) :
    ∃ page, a.store.pages[i]? = some page ∧ page.contents = Cell.join cells ∧
      (UInt32.ofNat i).toNat = i ∧ UInt32.ofNat i < 0xFFFFFFFF ∧
      page.used = (Cell.join cells).length ∧ (Cell.join cells).length ≤ 0xFFFFFFFF := by
  have found : a.store.row? i = some (Cell.join cells) := by rw [laid, row]; rfl
  have fits := PageStore.row?_length_le holds.bounded found
  obtain ⟨page, at_i, contents⟩ := Option.map_eq_some_iff.mp found
  have inside : i < a.store.pages.size := (Array.getElem?_eq_some_iff.mp at_i).1
  have pages := holds.bounded.pages_le
  have number : (UInt32.ofNat i).toNat = i := by
    rw [UInt32.toNat_ofNat', Nat.mod_eq_of_lt (by omega)]
  refine ⟨page, at_i, contents, number, ?_, ?_, fits⟩
  · rw [UInt32.lt_iff_toNat_lt, number]
    change i < 0xFFFFFFFF
    omega
  · rw [← contents, Page.length_contents]

/-- Every page of a heap is swept from its start to its end. -/
theorem sweep_of_holds (holds : a.store.Holds heap) {i : Nat} {page : Page}
    (found : a.store.pages[i]? = some page) :
    ∃ cells ds, page.contents = Cell.join cells ∧ a.Sweep (UInt32.ofNat i) 0 ds page.used ∧
      List.Forall₂ (Matches heap) ds cells := by
  obtain ⟨rows, rfl, laid⟩ := holds.rows
  have row := laid i
  rw [PageStore.row?, found] at row
  obtain ⟨cells, row, _⟩ := Option.map_eq_some_iff.mp row.symm
  obtain ⟨same, at_i, contents, number, below, used, fits⟩ := page_of_row holds laid row
  obtain rfl : page = same := Option.some.inj (found.symm.trans at_i)
  obtain ⟨ds, sweep, matched⟩ := sweep_of_row holds below [] cells [] fits
    (by rw [number, row]; simp)
  refine ⟨cells, ds, contents, ?_, matched⟩
  rw [used]
  exact sweep

/-- Every cell of a heap is met. -/
theorem tile_of_holds (holds : a.store.Holds heap) {addr : Addr} {c : Cell}
    (found : heap addr = some c) : a.Tile ⟨c.kind, c.size, addr⟩ := by
  have decoded := decode_of_holds holds found
  have size := (holds.lies found).toNat_size
  rw [Heap.handleAt_of_some found] at decoded
  obtain ⟨rows, rfl, laid⟩ := holds.rows
  obtain ⟨number, before, after, on, row, offset⟩ := Heap.ofRows_eq_some found
  obtain ⟨page, at_i, _, same, below, used, fits⟩ := page_of_row holds laid row
  rw [UInt32.ofNat_toNat] at below
  obtain ⟨ds, first, _⟩ := sweep_of_row holds below [] before (c :: after)
    (by simp only [Cell.join_append, List.length_append, List.nil_append] at fits ⊢; omega) row
  obtain ⟨es, last, _⟩ := sweep_of_row holds below (before ++ [c]) after []
    (by simpa using fits) (by rw [row]; simp)
  refine ⟨number.toNat, page, ds ++ ⟨c.kind, c.size, addr⟩ :: es, at_i, ?_, by simp⟩
  rw [UInt32.ofNat_toNat, used]
  apply first.append
  rw [List.nil_append, offset]
  refine .value (Addr.make?_of_page? on) decoded ?_
  rw [size, ← offset]
  simpa [Cell.bytes_length, Nat.add_comm] using last

/-- Nothing but the cells of a heap is met. -/
theorem Tile.cell (holds : a.store.Holds heap) {d : Descriptor} (tile : a.Tile d) :
    ∃ c, Matches heap d c := by
  obtain ⟨i, page, ds, found, sweep, member⟩ := tile
  obtain ⟨cells, es, _, sweep', matched⟩ := sweep_of_holds holds found
  obtain rfl := sweep.unique sweep'
  obtain ⟨j, bound, rfl⟩ := List.getElem_of_mem member
  exact ⟨_, matched.get bound (matched.length_eq ▸ bound)⟩

theorem starts_iff (holds : a.store.Holds heap) {kind : Kind} {addr : Addr} :
    a.Starts kind addr ↔ ∃ c, heap addr = some c ∧ c.kind = kind := by
  constructor
  · intro given
    obtain ⟨d, tile, rfl, rfl⟩ := given
    obtain ⟨c, found, named⟩ := tile.cell holds
    exact ⟨c, found, by rw [named]⟩
  · intro given
    obtain ⟨c, found, rfl⟩ := given
    exact ⟨_, tile_of_holds holds found, rfl, rfl⟩

theorem vacant_iff (holds : a.store.Holds heap) {addr : Addr} :
    a.Vacant addr ↔ heap addr = none := by
  constructor
  · intro vacant
    cases found : heap addr with
    | none => rfl
    | some c => exact absurd ((starts_iff holds).mpr ⟨c, found, rfl⟩) (vacant c.kind)
  · intro fresh kind starts
    obtain ⟨c, found, _⟩ := (starts_iff holds).mp starts
    rw [fresh] at found
    cases found

end ValueArena.Arena
