import ValueArena.Proofs.Memory.Rows

/-!
Giving out bytes. A request either fails and leaves the store as it was, or makes one row longer; a
store that has checked a sequence of requests against the ceiling serves them in order unless the
page numbers run out or the system refuses a page.
-/
namespace ValueArena

theorem Page.contents_grown (p : Page) (len : Nat) :
    Page.contents { p with used := p.used + len } = p.contents ++ p.bytes.read p.used len := by
  simp [Page.contents, SparseBytes.read_eq_map, List.range_add, Function.comp_def]

/-- However high the ceiling, there is no new page for `len` bytes when there are `pages` already:
the page numbers are used up, or the system refuses the page. -/
def Config.denies (c : Config) (len pages : Nat) : Bool :=
  0xFFFFFFFE ≤ pages || !c.provides pages (max len c.pageSize)

namespace PageStore

/-- The room that a new page of this size makes, if it may be opened. -/
def Room.open? (r : Room) (size : Nat) : Option Room :=
  if canReserve r.config (r.reserved + size) ∧ size ≤ 0xFFFFFFFF ∧ r.pages < 0xFFFFFFFE ∧
      r.config.provides r.pages size then
    some ⟨r.config, r.pages + 1, size, r.reserved + size⟩
  else none

def Room.take (r : Room) (len : Nat) : Room := { r with remaining := r.remaining - len }

/-- The room left by a request, if it is served. -/
def Room.reserve (r : Room) (len : Nat) : Option Room :=
  if 0 < r.pages ∧ len ≤ r.remaining then some (r.take len)
  else (r.open? (max len r.config.pageSize)).map (·.take len)

/-- Pages are never closed, and the last one only fills up. -/
structure Room.Leads (r r' : Room) : Prop where
  config : r'.config = r.config
  pages : r.pages ≤ r'.pages
  remaining : r.pages = r'.pages → r'.remaining ≤ r.remaining

theorem Room.Leads.refl (r : Room) : r.Leads r := ⟨rfl, Nat.le_refl _, fun _ => Nat.le_refl _⟩

theorem Room.Leads.trans {r r' r'' : Room} (first : r.Leads r') (second : r'.Leads r'') :
    r.Leads r'' := by
  obtain ⟨same_config, more, less⟩ := first
  obtain ⟨same_config', more', less'⟩ := second
  refine ⟨same_config'.trans same_config, by omega, ?_⟩
  intro same
  have := less (by omega)
  have := less' (by omega)
  omega

theorem Room.leads_of_reserve {r r' : Room} {len : Nat} (served : r.reserve len = some r') :
    r.Leads r' := by
  unfold reserve at served
  split at served
  · cases served
    exact ⟨rfl, Nat.le_refl _, fun _ => Nat.sub_le ..⟩
  · obtain ⟨opened, eq, rfl⟩ := Option.map_eq_some_iff.mp served
    unfold open? at eq
    split at eq
    · cases eq
      refine ⟨rfl, Nat.le_succ _, ?_⟩
      intro same
      exact absurd same (by simp [take])
    · cases eq

def Room.wouldFit (r : Room) (lens : List Nat) : Bool :=
  wouldFitFrom r.config r.remaining r.reserved lens

/-- Without a page nothing remains. -/
theorem room_remaining (s : PageStore) : s.room.pages = 0 → s.room.remaining = 0 := by
  intro zero
  have empty : s.pages.size = 0 := zero
  have active : s.active? = none := by
    rw [active?_eq s]
    exact Array.getElem?_eq_none (by omega)
  simp only [room, PageStore.remaining, active]

/-- A request that was checked among others leaves room for those after it. A store without pages
opens one even for no bytes, which the check does not count. -/
theorem Room.wouldFit_of_reserve {r r' : Room} {len : Nat} {lens : List Nat}
    (sound : r.pages = 0 → r.remaining = 0) (ready : 0 < r.pages ∨ 0 < len)
    (fits : r.wouldFit (len :: lens) = true) (served : r.reserve len = some r') :
    r'.wouldFit lens = true := by
  unfold wouldFit wouldFitFrom at fits
  unfold reserve at served
  split at served
  case isTrue here =>
    cases served
    rw [if_pos here.2] at fits
    exact fits
  case isFalse full =>
    obtain ⟨opened, eq, rfl⟩ := Option.map_eq_some_iff.mp served
    have large : ¬ len ≤ r.remaining := by omega
    rw [if_neg large] at fits
    unfold open? at eq
    split at eq
    · cases eq
      exact (Bool.and_eq_true_iff.mp fits).2
    · cases eq

/-- The last page has no room for `len` bytes, and there is no new page for them. -/
def Room.Exhausted (r : Room) (len : Nat) : Prop :=
  r.config.denies len r.pages = true ∧ r.remaining < len

instance (r : Room) (len : Nat) : Decidable (r.Exhausted len) :=
  inferInstanceAs (Decidable (_ ∧ _))

/-- A request that was checked fails only for want of a page that may be opened. -/
theorem Room.exhausted_of_reserve {r : Room} {len : Nat} {lens : List Nat}
    (sound : r.pages = 0 → r.remaining = 0) (ready : 0 < r.pages ∨ 0 < len)
    (small : max len r.config.pageSize ≤ 0xFFFFFFFF) (fits : r.wouldFit (len :: lens) = true)
    (refused : r.reserve len = none) : r.Exhausted len := by
  unfold wouldFit wouldFitFrom at fits
  unfold reserve at refused
  split at refused
  case isTrue => cases refused
  case isFalse full =>
    have large : ¬ len ≤ r.remaining := by omega
    rw [if_neg large] at fits
    have allowed := (Bool.and_eq_true_iff.mp fits).1
    have closed := Option.map_eq_none_iff.mp refused
    unfold open? at closed
    split at closed
    case isTrue => cases closed
    case isFalse blocked =>
      refine ⟨?_, by omega⟩
      cases denied : r.config.denies len r.pages with
      | true => rfl
      | false =>
        simp only [Config.denies, Bool.or_eq_false_iff, decide_eq_false_iff_not, Nat.not_le,
          Bool.not_eq_false'] at denied
        exact absurd ⟨allowed, small, denied⟩ blocked

/-- Where no page may be opened nothing is served that does not fit the last one. -/
theorem Room.Exhausted.reserve {r : Room} {len : Nat} (exhausted : r.Exhausted len) :
    r.reserve len = none := by
  obtain ⟨denied, short⟩ := exhausted
  unfold Room.reserve
  rw [if_neg (by omega)]
  unfold open?
  rw [if_neg]
  · rfl
  · rintro ⟨_, _, number, provided⟩
    simp [Config.denies, provided, Nat.not_le_of_lt number] at denied

/-- `len` bytes have been given out at `addr`, at the end of a row. -/
structure GivesOut (s : PageStore) (len : Nat) (addr : Addr) (t : PageStore) : Prop where
  bounded : t.Bounded
  row : ∃ (i : Nat) (draft : List UInt8), addr.page?.map UInt32.toNat = some i ∧
    i + 1 = t.pages.size ∧ draft.length = len ∧
    addr.offset.toNat = ((s.row? i).getD []).length ∧
    ∀ j, t.row? j = if j = i then some ((s.row? i).getD [] ++ draft) else s.row? j

theorem fits_iff {s : PageStore} {len : Nat} :
    s.fits len = true ↔ ∃ page, s.active? = some page ∧ len ≤ page.remaining := by
  unfold fits
  cases s.active? <;> simp

theorem fits_iff_room {s : PageStore} {len : Nat} :
    s.fits len = true ↔ 0 < s.room.pages ∧ len ≤ s.room.remaining := by
  have last : s.active? = s.pages[s.pages.size - 1]? := active?_eq s
  rw [fits_iff]
  by_cases some_page : 0 < s.pages.size
  · obtain ⟨page, active⟩ : ∃ page, s.active? = some page := by
      rw [last]
      exact ⟨_, Array.getElem?_eq_getElem (by omega)⟩
    simp [room, PageStore.remaining, active, some_page]
  · have none : s.active? = none := by
      rw [last]
      exact Array.getElem?_eq_none (by omega)
    simp [room, none, some_page]

theorem openPage_eq_ok_iff {s t : PageStore} {size : Nat} :
    s.openPage size = .ok t ↔
      canReserve s.config (s.reserved + size) = true ∧ size ≤ 0xFFFFFFFF ∧
        s.pages.size < 0xFFFFFFFE ∧ s.config.provides s.pages.size size = true ∧
        t = { s with pages := s.pages.push ⟨size, 0, .blank⟩, reserved := s.reserved + size } := by
  unfold openPage
  by_cases small : size ≤ 0xFFFFFFFF
  · by_cases allowed : canReserve s.config (s.reserved + size) = true
    · by_cases room : s.pages.size < 0xFFFFFFFE
      · have capacity : size < 0x8000000000000000 := by omega
        by_cases provided : s.config.provides s.pages.size size = true
        · simp [allowed, small, room, provided, capacity, Page.ofCapacity?, eq_comm]
        · simp [allowed, small, room, provided, Page.ofCapacity?]
      · simp [allowed, room]
    · simp [allowed]
  · simp [small]

theorem openPage_error {s : PageStore} {size : Nat} {e : MemoryError}
    (refused : s.openPage size = .error e) : e = .allocationFailed size s.reserved := by
  unfold openPage at refused
  dsimp only at refused
  split at refused
  case isTrue =>
    split at refused
    · cases refused
    · exact (Except.error.inj refused).symm
  case isFalse => exact (Except.error.inj refused).symm

/-- The next byte of the last page has an address. -/
theorem Bounded.address {s : PageStore} (bounded : s.Bounded) {page : Page}
    (active : s.active? = some page) :
    ∃ addr, Addr.make? (UInt32.ofNat (s.pages.size - 1)) (UInt32.ofNat page.used) = some addr ∧
      addr.page?.map UInt32.toNat = some (s.pages.size - 1) ∧ addr.offset.toNat = page.used := by
  rw [active?_eq] at active
  have bound : s.pages.size - 1 < s.pages.size := (Array.getElem?_eq_some_iff.mp active).1
  have pages := bounded.pages_le
  obtain ⟨used, capacity⟩ := bounded.used_le _ page active
  have number : (UInt32.ofNat (s.pages.size - 1)).toNat = s.pages.size - 1 := by
    rw [UInt32.toNat_ofNat', Nat.mod_eq_of_lt (by omega)]
  have position : (UInt32.ofNat page.used).toNat = page.used := by
    rw [UInt32.toNat_ofNat', Nat.mod_eq_of_lt (by omega)]
  have encodes : UInt32.ofNat (s.pages.size - 1) < 0xFFFFFFFF := by
    rw [UInt32.lt_iff_toNat_lt, number]
    simp only [UInt32.reduceToNat]
    omega
  obtain ⟨addr, made⟩ : ∃ addr,
      Addr.make? (UInt32.ofNat (s.pages.size - 1)) (UInt32.ofNat page.used) = some addr := by
    simp [Addr.make?, encodes]
  refine ⟨addr, made, ?_, ?_⟩
  · rw [Addr.page?_of_make? made, Option.map_some, number]
  · rw [Addr.offset_of_make? made, position]

theorem Bounded.grown {s : PageStore} (bounded : s.Bounded) {i len : Nat} {page : Page}
    (at_i : s.pages[i]? = some page) (room : page.used + len ≤ page.capacity) :
    (s.put i { page with used := page.used + len }).Bounded := by
  obtain ⟨_, capacity⟩ := bounded.used_le i page at_i
  have bound := (Array.getElem?_eq_some_iff.mp at_i).1
  constructor
  · intro j other at_j
    rw [getElem?_put] at at_j
    split at at_j
    · obtain rfl : _ = other := by simpa [bound] using at_j
      exact ⟨room, capacity⟩
    · exact bounded.used_le j other at_j
  · simpa [put] using bounded.pages_le
  · simpa [put] using bounded.pageSize_le

theorem row?_grown {s : PageStore} {i : Nat} {page : Page} (at_i : s.pages[i]? = some page)
    (len j : Nat) :
    (s.put i { page with used := page.used + len }).row? j =
      if j = i then some ((s.row? i).getD [] ++ page.bytes.read page.used len) else s.row? j := by
  have bound := (Array.getElem?_eq_some_iff.mp at_i).1
  simp only [row?, getElem?_put, bound, ↓reduceIte, eq_comm (a := i)]
  split
  · rw [Option.map_some, Page.contents_grown, at_i]
    rfl
  · rfl

/-- What fits is cut from the active page. -/
theorem alloc_of_fits {s : PageStore} (bounded : s.Bounded) {len : Nat} (fits : s.fits len = true) :
    ∃ page, s.active? = some page ∧ page.used + len ≤ page.capacity ∧
      page.alloc? len = some (UInt32.ofNat page.used, { page with used := page.used + len }) := by
  obtain ⟨page, active, enough⟩ := fits_iff.mp fits
  have last := active
  rw [active?_eq] at last
  obtain ⟨used, capacity⟩ := bounded.used_le _ page last
  have room : page.used + len ≤ page.capacity := by
    rw [Page.remaining] at enough
    omega
  exact ⟨page, active, room, by rw [Page.alloc?, if_pos ⟨room, by omega⟩]⟩

theorem take_of_fits {s : PageStore} (bounded : s.Bounded) {len : Nat} (fits : s.fits len = true) :
    ∃ addr t, s.take len = (.ok addr, t) ∧ t.room = s.room.take len ∧ s.GivesOut len addr t := by
  obtain ⟨page, active, room, alloc⟩ := alloc_of_fits bounded fits
  have last := active
  rw [active?_eq] at last
  have bound : s.pages.size - 1 < s.pages.size := (Array.getElem?_eq_some_iff.mp last).1
  obtain ⟨addr, made, index, offset⟩ := bounded.address active
  have row : s.row? (s.pages.size - 1) = some page.contents := by rw [row?, last, Option.map_some]
  refine ⟨addr, s.put (s.pages.size - 1) { page with used := page.used + len }, ?_, ?_,
    bounded.grown last room, s.pages.size - 1, page.bytes.read page.used len, index, ?_, by simp,
    ?_, row?_grown last len⟩
  · simp only [take, active, alloc, made]
  · simp only [PageStore.room, Room.take, remaining_of_active active,
      remaining_of_active (active?_put bound), Page.remaining, Nat.sub_sub]
    simp [put]
  · simp only [put, Array.size_setIfInBounds]
    omega
  · rw [offset, row]
    simp

theorem openPage_room {s : PageStore} {size : Nat} :
    s.room.open? size = (s.openPage size).toOption.map PageStore.room := by
  cases opened : s.openPage size with
  | ok t =>
    obtain ⟨allowed, small, numbers, provided, rfl⟩ := openPage_eq_ok_iff.mp opened
    simp [Room.open?, room, allowed, small, numbers, provided, Except.toOption,
      PageStore.remaining, active?, Page.remaining]
  | error e =>
    rw [Room.open?, if_neg]
    · rfl
    · intro given
      obtain ⟨allowed, small, numbers, provided⟩ := given
      have opens := openPage_eq_ok_iff.mpr ⟨allowed, small, numbers, provided, rfl⟩
      rw [opened] at opens
      cases opens

theorem openPage_bounded {s t : PageStore} (bounded : s.Bounded) {size : Nat}
    (large : s.config.pageSize ≤ size) (opened : s.openPage size = .ok t) : t.Bounded := by
  obtain ⟨_, small, room, _, rfl⟩ := openPage_eq_ok_iff.mp opened
  refine ⟨?_, by simp; omega, fun _ => Nat.le_trans large small⟩
  intro i page found
  rw [Array.getElem?_push] at found
  split at found
  · cases found
    exact ⟨Nat.zero_le _, small⟩
  · exact bounded.used_le i page found

theorem fits_openPage {s t : PageStore} {size len : Nat} (opened : s.openPage size = .ok t)
    (enough : len ≤ size) : t.fits len = true := by
  obtain ⟨_, _, _, _, rfl⟩ := openPage_eq_ok_iff.mp opened
  exact fits_iff.mpr ⟨⟨size, 0, .blank⟩, by simp [active?], by simpa [Page.remaining] using enough⟩

/-- A new page adds an empty row, which a reservation cannot tell from none. -/
theorem row?_openPage {s t : PageStore} {size : Nat} (opened : s.openPage size = .ok t) (j : Nat) :
    t.row? j = if j = s.pages.size then some [] else s.row? j := by
  obtain ⟨_, _, _, _, rfl⟩ := openPage_eq_ok_iff.mp opened
  simp only [row?, Array.getElem?_push]
  split
  · rfl
  · rfl

theorem GivesOut.of_openPage {s t u : PageStore} {size len : Nat} {addr : Addr}
    (opened : s.openPage size = .ok t) (same : u.room = t.room.take len)
    (gives : t.GivesOut len addr u) : s.GivesOut len addr u := by
  obtain ⟨_, _, _, _, opened_eq⟩ := openPage_eq_ok_iff.mp opened
  obtain ⟨i, draft, index, last, length, position, rows⟩ := gives.row
  have new : i = s.pages.size := by
    have more : t.pages.size = s.pages.size + 1 := by rw [opened_eq]; simp
    have kept : u.pages.size = t.pages.size := congrArg Room.pages same
    omega
  have absent : s.row? i = none := by
    rw [← Option.not_isSome_iff_eq_none, row?_isSome_iff]
    omega
  have blank : t.row? i = some [] := by rw [row?_openPage opened, if_pos new]
  refine ⟨gives.bounded, i, draft, index, last, length, ?_, ?_⟩
  · rw [position, blank, absent]
    rfl
  · intro j
    rw [rows, blank, absent]
    split
    case isTrue => rfl
    case isFalse other => rw [row?_openPage opened, if_neg (by omega)]

/-- A refused request leaves the store as it was. -/
theorem reserve_cases {s : PageStore} (bounded : s.Bounded) (len : Nat) :
    (∃ n m, s.reserve len = (.error (.allocationFailed n m), s) ∧ s.room.reserve len = none) ∨
      ∃ addr t, s.reserve len = (.ok addr, t) ∧ s.room.reserve len = some t.room ∧
        s.GivesOut len addr t := by
  unfold reserve Room.reserve
  split
  case isTrue fits =>
    obtain ⟨addr, t, taken, room, gives⟩ := take_of_fits bounded fits
    rw [if_pos (fits_iff_room.mp fits)]
    exact .inr ⟨addr, t, taken, congrArg some room.symm, gives⟩
  case isFalse full =>
    rw [if_neg (fun fits => full (fits_iff_room.mpr fits)), openPage_room]
    cases opened : s.openPage (max len s.config.pageSize) with
    | error e =>
      rw [openPage_error opened]
      exact .inl ⟨_, _, rfl, by simp [PageStore.room, opened, Except.toOption]⟩
    | ok t =>
      have bounded' := openPage_bounded bounded (Nat.le_max_right ..) opened
      have fits := fits_openPage opened (Nat.le_max_left ..)
      obtain ⟨addr, u, taken, room, gives⟩ := take_of_fits bounded' fits
      refine .inr ⟨addr, u, taken, ?_, gives.of_openPage opened room⟩
      simp [PageStore.room, opened, Except.toOption] at room ⊢
      exact room.symm

/-- What finds no room is refused. -/
theorem reserve_of_room_none {s : PageStore} (bounded : s.Bounded) {len : Nat}
    (none : s.room.reserve len = none) :
    ∃ n m, s.reserve len = (.error (.allocationFailed n m), s) := by
  rcases reserve_cases bounded len with ⟨n, m, refused, _⟩ | ⟨_, _, _, room, _⟩
  · exact ⟨n, m, refused⟩
  · cases none.symm.trans room

/-- What is longer than any page is not given out. -/
theorem reserve_of_large {s : PageStore} (bounded : s.Bounded) {len : Nat}
    (large : 0xFFFFFFFF < len) : s.room.reserve len = none := by
  have short : s.remaining ≤ 0xFFFFFFFF := by
    cases active : s.active? with
    | none =>
      simp only [PageStore.remaining, active]
      omega
    | some page =>
      have last := active
      rw [active?_eq] at last
      have := bounded.used_le _ page last
      rw [remaining_of_active active, Page.remaining]
      omega
  unfold Room.reserve
  rw [if_neg (by simp only [room]; omega), Room.open?, if_neg (by simp only [room]; omega)]
  rfl

end PageStore
end ValueArena
