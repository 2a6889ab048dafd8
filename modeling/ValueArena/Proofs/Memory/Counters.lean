import Mathlib.Algebra.Ring.Nat
import ValueArena.Proofs.Memory.History

/-!
What the counters of a store count. The bytes reserved are the capacities of all pages and stay
under the ceiling; a page gives out what was granted from it, in order, and is larger than standard
only for a single request. Every count only grows.
-/
namespace ValueArena

/-- The page has given out requests of these lengths. Where it is larger than standard there was
one, of its whole size. -/
structure Page.Filled (p : Page) (standard : Nat) (lens : List Nat) : Prop where
  used : p.used = lens.sum
  used_le : p.used ≤ p.capacity
  size : p.capacity = standard ∨ standard < p.capacity ∧ lens = [p.capacity]

theorem Page.Filled.give {p : Page} {standard : Nat} {lens : List Nat}
    (filled : p.Filled standard lens) {len : Nat} (positive : 0 < len)
    (room : p.used + len ≤ p.capacity) :
    Page.Filled { p with used := p.used + len } standard (lens ++ [len]) := by
  obtain ⟨used, _, size⟩ := filled
  refine ⟨by simp [used], room, ?_⟩
  rcases size with exact_size | ⟨_, single⟩
  · exact .inl exact_size
  · -- a larger page has nothing left to give
    rw [single, List.sum_singleton] at used
    omega

theorem Page.filled_new (standard len : Nat) :
    Page.Filled ⟨max len standard, len, .blank⟩ standard [len] := by
  refine ⟨by simp, Nat.le_max_left .., ?_⟩
  dsimp only
  by_cases larger : standard < len
  · exact .inr ⟨by omega, by rw [Nat.max_eq_left (by omega)]⟩
  · exact .inl (by omega)

namespace PageStore

def capacities (s : PageStore) : List Nat := s.pages.toList.map Page.capacity

/-- The bytes reserved less the free end of the last page. -/
def bytesInUse (s : PageStore) : Nat := s.reserved - s.activeSize + s.activeOffset

def Grant.on (g : Grant) (i : Nat) : Bool := g.addr.page?.map UInt32.toNat == some i

/-- The lengths granted from a page, in order. -/
def servedFrom (i : Nat) (grants : List Grant) : List Nat := (grants.filter (·.on i)).map Grant.len

/-- What the counters of a store say about its pages and what it has granted. -/
structure Counted (s : PageStore) (grants : List Grant) : Prop where
  reserved : s.reserved = s.capacities.sum
  ceiling : ∀ most, s.config.maxBytes = some most → s.reserved ≤ most
  pages : ∀ (i : Nat) (page : Page), s.pages[i]? = some page →
    page.Filled s.config.pageSize (servedFrom i grants)

/-- No counter falls. -/
structure Grows (s t : PageStore) : Prop where
  config : t.config = s.config
  pages : s.pageCount ≤ t.pageCount
  reserved : s.reserved ≤ t.reserved
  inUse : s.bytesInUse ≤ t.bytesInUse

theorem Grows.refl (s : PageStore) : s.Grows s :=
  ⟨rfl, Nat.le_refl _, Nat.le_refl _, Nat.le_refl _⟩

theorem Grows.trans {s t u : PageStore} (first : s.Grows t) (second : t.Grows u) : s.Grows u :=
  ⟨second.config.trans first.config, Nat.le_trans first.pages second.pages,
    Nat.le_trans first.reserved second.reserved, Nat.le_trans first.inUse second.inUse⟩

theorem capacities_put {s : PageStore} {i : Nat} {p q : Page} (found : s.pages[i]? = some p)
    (same : q.capacity = p.capacity) : (s.put i q).capacities = s.capacities := by
  obtain ⟨bound, rfl⟩ := Array.getElem?_eq_some_iff.mp found
  have inside : i < (s.pages.toList.map Page.capacity).length := by simpa using bound
  have here : (s.pages.toList.map Page.capacity)[i] = q.capacity := by simp [same]
  simp only [capacities, put, Array.toList_setIfInBounds, List.map_set, ← here]
  exact List.set_getElem_self inside

/-- The last page apart from the earlier ones. -/
theorem capacities_of_active {s : PageStore} {page : Page} (active : s.active? = some page) :
    s.capacities = s.capacities.dropLast ++ [page.capacity] := by
  have last : s.capacities.getLast? = some page.capacity := by
    rw [capacities, List.getLast?_map, Array.getLast?_toList]
    exact congrArg (Option.map Page.capacity) active
  obtain ⟨earlier, split⟩ := List.getLast?_eq_some_iff.mp last
  rw [split, List.dropLast_concat]

theorem capacities_of_inactive {s : PageStore} (inactive : s.active? = none) :
    s.capacities = [] := by
  have none : s.pages = #[] := Array.back?_eq_none_iff.mp inactive
  rw [capacities, none]
  rfl

/-- The bytes in use are the earlier pages and what the last one has given out. -/
theorem bytesInUse_eq {s : PageStore} (reserved : s.reserved = s.capacities.sum) :
    s.activeSize ≤ s.reserved ∧ s.bytesInUse = s.capacities.dropLast.sum + s.activeOffset := by
  cases active : s.active? with
  | none =>
    rw [capacities_of_inactive active] at reserved ⊢
    simp only [bytesInUse, activeSize, activeOffset, active, reserved]
    exact ⟨Nat.le_refl _, rfl⟩
  | some page =>
    have parts := congrArg List.sum (capacities_of_active active)
    rw [List.sum_append, List.sum_singleton, ← reserved] at parts
    simp only [bytesInUse, activeSize, activeOffset, active]
    omega

/-- The store after a new page, which serves a request. -/
def opened (s : PageStore) (len : Nat) : PageStore :=
  { s with
    pages := s.pages.push ⟨max len s.config.pageSize, len, .blank⟩
    reserved := s.reserved + max len s.config.pageSize }

/-- How a request changes the pages: not at all, by filling the last one, or by a new one. -/
theorem reserve_forms {s : PageStore} (bounded : s.Bounded) (len : Nat) :
    (∃ e, s.reserve len = (.error e, s)) ∨
    (∃ page addr, s.active? = some page ∧ page.used + len ≤ page.capacity ∧
      addr.page?.map UInt32.toNat = some (s.pages.size - 1) ∧
      s.reserve len =
        (.ok addr, s.put (s.pages.size - 1) { page with used := page.used + len })) ∨
    ∃ addr, canReserve s.config (s.reserved + max len s.config.pageSize) = true ∧
      addr.page?.map UInt32.toNat = some s.pages.size ∧ s.reserve len = (.ok addr, s.opened len) := by
  cases fits : s.fits len with
  | true =>
    obtain ⟨page, active, room, alloc⟩ := alloc_of_fits bounded fits
    obtain ⟨addr, made, index, _⟩ := bounded.address active
    refine .inr (.inl ⟨page, addr, active, room, index, ?_⟩)
    simp only [reserve, fits, ↓reduceIte, take, active, alloc, made]
  | false =>
    cases opens : s.openPage (max len s.config.pageSize) with
    | error e => exact .inl ⟨e, by simp [reserve, fits, opens]⟩
    | ok t =>
      have bounded' := openPage_bounded bounded (Nat.le_max_right ..) opens
      obtain ⟨page, active, _, alloc⟩ :=
        alloc_of_fits bounded' (fits_openPage opens (Nat.le_max_left len s.config.pageSize))
      obtain ⟨addr, made, index, _⟩ := bounded'.address active
      obtain ⟨allowed, _, _, _, rfl⟩ := openPage_eq_ok_iff.mp opens
      obtain rfl : _ = page := by simpa [active?] using active
      refine .inr (.inr ⟨addr, allowed, by simpa using index, ?_⟩)
      have pushed : (s.pages.push ⟨max len s.config.pageSize, 0, .blank⟩).setIfInBounds
          s.pages.size ⟨max len s.config.pageSize, len, .blank⟩ =
            s.pages.push ⟨max len s.config.pageSize, len, .blank⟩ := by
        simp [Array.setIfInBounds, Array.set_push]
      simp only [reserve, fits, opens, take, active, alloc, made]
      simp [put, opened, pushed]

theorem servedFrom_append (i : Nat) (grants more : List Grant) :
    servedFrom i (grants ++ more) = servedFrom i grants ++ servedFrom i more := by
  simp [servedFrom]

theorem servedFrom_single {g : Grant} {j : Nat} (index : g.addr.page?.map UInt32.toNat = some j)
    (i : Nat) : servedFrom i [g] = if j = i then [g.len] else [] := by
  simp only [servedFrom, List.filter_cons, List.filter_nil, Grant.on, index]
  by_cases same : j = i <;> simp [same]

/-- Nothing was granted from a page that does not exist. -/
theorem Tracks.unserved {s : PageStore} {grants : List Grant} (tracks : s.Tracks grants) {i : Nat}
    (beyond : s.pages.size ≤ i) : servedFrom i grants = [] := by
  have none : grants.filter (·.on i) = [] := by
    refine List.filter_eq_nil_iff.mpr ?_
    intro g member on
    obtain ⟨j, row, index, found, _⟩ := tracks.rows g member
    have present : j < s.pages.size := row?_isSome_iff.mp (by rw [found]; rfl)
    have : j = i := by simpa [Grant.on, index] using on
    omega
  rw [servedFrom, none, List.map_nil]

theorem empty_counted (config : Config) : (empty config).Counted [] where
  reserved := rfl
  ceiling := fun _ _ => Nat.zero_le _
  pages := by simp [empty]

section Steps

variable {s : PageStore} {grants : List Grant} {page : Page} {addr : Addr} {len : Nat}

theorem Counted.offset_le (counted : s.Counted grants) : s.activeOffset ≤ s.activeSize := by
  cases active : s.active? with
  | none => simp only [activeOffset, activeSize, active, Nat.le_refl]
  | some page =>
    have last := active
    rw [active?_eq] at last
    simpa only [activeOffset, activeSize, active] using (counted.pages _ page last).used_le

theorem Counted.inUse_le (counted : s.Counted grants) : s.bytesInUse ≤ s.reserved := by
  have offset := counted.offset_le
  obtain ⟨size, _⟩ := bytesInUse_eq counted.reserved
  rw [bytesInUse]
  omega

/-- A page is replaced by one of its size, and what was served from it is counted with it. -/
theorem Counted.put (counted : s.Counted grants) {i : Nat} {q : Page} {more : List Grant}
    (found : s.pages[i]? = some page) (same : q.capacity = page.capacity)
    (filled : q.Filled s.config.pageSize (servedFrom i (grants ++ more)))
    (others : ∀ j, j ≠ i → servedFrom j more = []) : (s.put i q).Counted (grants ++ more) := by
  have bound := (Array.getElem?_eq_some_iff.mp found).1
  refine ⟨?_, counted.ceiling, ?_⟩
  · rw [capacities_put found same]
    exact counted.reserved
  · intro j p at_j
    rw [getElem?_put] at at_j
    by_cases here : i = j
    · subst here
      obtain rfl : q = p := by simpa [bound] using at_j
      exact filled
    · rw [if_neg here] at at_j
      rw [servedFrom_append, others j (Ne.symm here), List.append_nil]
      exact counted.pages j p at_j

theorem Counted.fill (counted : s.Counted grants) (active : s.active? = some page)
    (positive : 0 < len) (room : page.used + len ≤ page.capacity)
    (index : addr.page?.map UInt32.toNat = some (s.pages.size - 1)) :
    (s.put (s.pages.size - 1) { page with used := page.used + len }).Counted
      (grants ++ [⟨addr, len⟩]) := by
  have single := servedFrom_single (g := ⟨addr, len⟩) index
  rw [active?_eq] at active
  refine counted.put active rfl ?_ ?_
  · rw [servedFrom_append, single, if_pos rfl]
    exact (counted.pages _ page active).give positive room
  · intro j other
    rw [single, if_neg (Ne.symm other)]

theorem Counted.open (counted : s.Counted grants) (tracks : s.Tracks grants)
    (allowed : canReserve s.config (s.reserved + max len s.config.pageSize) = true)
    (index : addr.page?.map UInt32.toNat = some s.pages.size) :
    (s.opened len).Counted (grants ++ [⟨addr, len⟩]) := by
  have single := servedFrom_single (g := ⟨addr, len⟩) index
  refine ⟨?_, ?_, ?_⟩
  · simp [opened, capacities, counted.reserved]
  · intro most ceiling
    have ceiling : s.config.maxBytes = some most := ceiling
    have under := (Bool.and_eq_true_iff.mp allowed).2
    simpa [Config.allows, ceiling, opened] using under
  · intro i p found
    rw [servedFrom_append, single]
    simp only [opened, Array.getElem?_push] at found
    split at found
    case isTrue last =>
      cases found
      rw [tracks.unserved (Nat.le_of_eq last.symm), if_pos last.symm]
      exact Page.filled_new ..
    case isFalse other =>
      rw [if_neg (Ne.symm other), List.append_nil]
      exact counted.pages i p found

/-- A page that is replaced by a fuller one of its size. -/
theorem grows_put {i : Nat} {q : Page} (found : s.pages[i]? = some page)
    (same : q.capacity = page.capacity) (fuller : page.used ≤ q.used) : s.Grows (s.put i q) := by
  have bound := (Array.getElem?_eq_some_iff.mp found).1
  have size : (s.put i q).pages.size = s.pages.size := by simp [put]
  refine ⟨rfl, Nat.le_of_eq size.symm, Nat.le_refl _, ?_⟩
  have reserved : (s.put i q).reserved = s.reserved := rfl
  by_cases last : i = s.pages.size - 1
  · subst last
    have active : s.active? = some page := (active?_eq s).trans found
    simp only [bytesInUse, activeSize, activeOffset, reserved, active, active?_put bound]
    omega
  · have kept : (s.put i q).active? = s.active? := by
      rw [active?_eq, active?_eq, size, getElem?_put, if_neg last]
    simp only [bytesInUse, activeSize, activeOffset, reserved, kept, Nat.le_refl]

theorem Counted.grows_open (counted : s.Counted grants) : s.Grows (s.opened len) := by
  refine ⟨rfl, by simp [pageCount, opened], Nat.le_add_right .., ?_⟩
  have before := counted.inUse_le
  have after : (s.opened len).bytesInUse = s.reserved + len := by
    simp [bytesInUse, activeSize, activeOffset, active?, opened]
  omega

/-- A write moves no count. -/
theorem Counted.write {t : PageStore} {bytes : List UInt8} (counted : s.Counted grants)
    (written : s.write addr bytes = .ok t) : t.Counted grants ∧ s.Grows t := by
  obtain ⟨i, page, located, rfl⟩ := write_eq_ok_iff.mp written
  obtain ⟨_, found, _⟩ := locate_eq_ok_iff.mp located
  obtain ⟨used, used_le, size⟩ := counted.pages i page found
  refine ⟨?_, grows_put found rfl (Nat.le_refl _)⟩
  rw [← List.append_nil grants]
  exact counted.put found rfl ⟨by simpa using used, used_le, by simpa using size⟩ fun _ _ => rfl

end Steps

/-- One call keeps the counts true and lets none of them fall. -/
theorem Counted.call {s : PageStore} {grants : List Grant} (counted : s.Counted grants)
    (tracks : s.Tracks grants) {c : Call} (positive : c ≠ .reserve 0) :
    (s.call c).2.Counted (grants ++ (s.call c).1) ∧ s.Grows (s.call c).2 := by
  cases c with
  | reserve len =>
    have positive : 0 < len := Nat.pos_of_ne_zero fun zero => positive (congrArg Call.reserve zero)
    rcases reserve_forms tracks.bounded len with
      ⟨e, refused⟩ | ⟨page, addr, active, room, index, served⟩ | ⟨addr, allowed, index, served⟩
    · simp only [PageStore.call, refused, List.append_nil]
      exact ⟨counted, .refl s⟩
    · simp only [PageStore.call, served]
      refine ⟨counted.fill active positive room index, ?_⟩
      rw [active?_eq] at active
      exact grows_put active rfl (Nat.le_add_right ..)
    · simp only [PageStore.call, served]
      exact ⟨counted.open tracks allowed index, counted.grows_open⟩
  | write addr bytes =>
    cases written : s.write addr bytes with
    | error e =>
      simp only [PageStore.call, written, List.append_nil]
      exact ⟨counted, .refl s⟩
    | ok t =>
      simp only [PageStore.call, written, List.append_nil]
      exact counted.write written

theorem Counted.callAll {s : PageStore} {grants : List Grant} (counted : s.Counted grants)
    (tracks : s.Tracks grants) {cs : List Call} (positive : .reserve 0 ∉ cs) :
    (callAll cs s).2.Counted (grants ++ (PageStore.callAll cs s).1) ∧
      s.Grows (PageStore.callAll cs s).2 := by
  induction cs generalizing s grants with
  | nil => exact ⟨by simpa [PageStore.callAll] using counted, .refl s⟩
  | cons c cs ih =>
    obtain ⟨here, later⟩ := not_or.mp (mt List.mem_cons.mpr positive)
    obtain ⟨counted', grows⟩ := counted.call tracks (Ne.symm here)
    obtain ⟨counted'', grows'⟩ := ih counted' (tracks.call c).1 later
    exact ⟨by simpa [PageStore.callAll] using counted'', grows.trans grows'⟩

theorem take_opens_none (s : PageStore) (len : Nat) :
    (s.take len).2.pageCount = s.pageCount ∧ (s.take len).2.reserved = s.reserved := by
  unfold take
  dsimp only
  split
  · exact ⟨rfl, rfl⟩
  · split
    · exact ⟨rfl, rfl⟩
    · split <;> simp [pageCount, put]

/-- A request opens at most one page, only where the last one is too full, and of the size of the
request if that is more than standard. -/
theorem reserve_opens (s : PageStore) (len : Nat) :
    (s.reserve len).2.pageCount = s.pageCount ∧ (s.reserve len).2.reserved = s.reserved ∨
      (s.pages = #[] ∨ s.remaining < len) ∧
        (s.reserve len).2.pageCount = s.pageCount + 1 ∧
        (s.reserve len).2.reserved = s.reserved + max len s.config.pageSize := by
  unfold reserve
  cases fits : s.fits len with
  | true => exact .inl (take_opens_none s len)
  | false =>
    cases opens : s.openPage (max len s.config.pageSize) with
    | error e => exact .inl ⟨rfl, rfl⟩
    | ok t =>
      obtain ⟨_, _, _, _, rfl⟩ := openPage_eq_ok_iff.mp opens
      refine .inr ⟨?_, ?_⟩
      · cases active : s.active? with
        | none => exact .inl (Array.back?_eq_none_iff.mp active)
        | some page => exact .inr (by simpa [PageStore.fits, remaining, active] using fits)
      · simpa [pageCount] using take_opens_none { s with
          pages := s.pages.push ⟨max len s.config.pageSize, 0, .blank⟩
          reserved := s.reserved + max len s.config.pageSize } len

end PageStore
end ValueArena
