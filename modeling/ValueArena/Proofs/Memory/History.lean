import ValueArena.Proofs.Memory.Reserve

/-!
The store over a whole history of requests and writes, refused ones among them. The bytes given out
stay readable where they are, no two grants share a byte, and a byte changes only through a write
over it.
-/
namespace ValueArena

/-- The offset `k` of the page lies in the `len` bytes from this address on. -/
def Addr.Spans (a : Addr) (len page k : Nat) : Prop :=
  a.page?.map UInt32.toNat = some page ∧ a.offset.toNat ≤ k ∧ k < a.offset.toNat + len

namespace PageStore

inductive Call where
  | reserve (len : Nat)
  | write (addr : Addr) (bytes : List UInt8)
  deriving DecidableEq, Repr

/-- A write over this byte. -/
def Call.Touches (page k : Nat) : Call → Prop
  | .reserve _ => False
  | .write addr bytes => addr.Spans bytes.length page k

/-- Bytes given out by a request. -/
structure Grant where
  addr : Addr
  len : Nat
  deriving DecidableEq, Repr

def Grant.Spans (g : Grant) (page k : Nat) : Prop := g.addr.Spans g.len page k

def Grant.Apart (g h : Grant) : Prop := ∀ page k, g.Spans page k → ¬ h.Spans page k

/-- One call, with what it was granted. A refused write changes nothing. -/
def call (s : PageStore) : Call → List Grant × PageStore
  | .reserve len =>
    match s.reserve len with
    | (.ok addr, t) => ([⟨addr, len⟩], t)
    | (.error _, t) => ([], t)
  | .write addr bytes =>
    match s.write addr bytes with
    | .ok t => ([], t)
    | .error _ => ([], s)

/-- The calls in order, with all that they were granted. -/
def callAll : List Call → PageStore → List Grant × PageStore
  | [], s => ([], s)
  | c :: cs, s =>
    let (granted, s) := s.call c
    let (more, s) := callAll cs s
    (granted ++ more, s)

/-- The last page gives out `len` bytes, at an offset and under a page number that an address
holds. -/
def Takes (s : PageStore) (len : Nat) : Prop :=
  ∃ page page' offset addr, s.active? = some page ∧ page.alloc? len = some (offset, page') ∧
    Addr.make? (UInt32.ofNat (s.pages.size - 1)) offset = some addr ∧
    s.take len = (.ok addr, s.put (s.pages.size - 1) page')

/-- What a store keeps about all it has granted. -/
structure Serves (s : PageStore) (grants : List Grant) : Prop where
  inside : ∀ g ∈ grants, ∃ i page, g.addr.page?.map UInt32.toNat = some i ∧
    s.pages[i]? = some page ∧ g.addr.offset.toNat + g.len ≤ page.used
  readable : ∀ g ∈ grants, ∃ bytes, s.read g.addr g.len = .ok bytes ∧ bytes.length = g.len
  apart : grants.Pairwise Grant.Apart
  increasing : (grants.filter (0 < ·.len)).Pairwise fun g h => g.addr.raw < h.addr.raw
  /-- Once the last page fits a request, or a page is opened for it, the request is served. -/
  takes : ∀ len, (s.fits len = true → s.Takes len) ∧
    ∀ t, s.openPage (max len s.config.pageSize) = .ok t → t.Takes len
  /-- A request is refused exactly if it does not fit the last page and no page is opened for it,
  and then it changes nothing. -/
  refuses : ∀ len e t, s.reserve len = (.error e, t) ↔
    s.fits len = false ∧ s.openPage (max len s.config.pageSize) = .error e ∧ t = s

/-- The one grant ends before the other starts: on an earlier page, or earlier on the same one. -/
def Grant.Before (g h : Grant) : Prop :=
  ∃ i j, g.addr.page?.map UInt32.toNat = some i ∧ h.addr.page?.map UInt32.toNat = some j ∧
    (i < j ∨ i = j ∧ g.addr.offset.toNat + g.len ≤ h.addr.offset.toNat)

theorem Grant.Before.apart {g h : Grant} (before : g.Before h) : g.Apart h := by
  intro page k on_g on_h
  obtain ⟨i, j, at_g, at_h, order⟩ := before
  obtain ⟨page_g, _, below⟩ := on_g
  obtain ⟨page_h, above, _⟩ := on_h
  have := at_g.symm.trans page_g
  have := at_h.symm.trans page_h
  grind

theorem toNat_raw {a : Addr} {i : Nat} (index : a.page?.map UInt32.toNat = some i) :
    a.raw.toNat = (i + 1) * 0x100000000 + a.offset.toNat := by
  obtain ⟨page, found, rfl⟩ := Option.map_eq_some_iff.mp index
  have high := Addr.page?_eq_some_iff.mp found
  rw [Addr.toNat_offset]
  omega

theorem Grant.Before.raw_lt {g h : Grant} (before : g.Before h) (some_byte : 0 < g.len) :
    g.addr.raw < h.addr.raw := by
  obtain ⟨i, j, at_g, at_h, order⟩ := before
  have := toNat_raw at_g
  have := toNat_raw at_h
  have := g.addr.offset.toNat_lt
  rw [UInt64.lt_iff_toNat_lt]
  omega

/-- The grants lie in rows given out, each before the next. -/
structure Tracks (s : PageStore) (grants : List Grant) : Prop where
  bounded : s.Bounded
  rows : ∀ g ∈ grants, ∃ i row, g.addr.page?.map UInt32.toNat = some i ∧ s.row? i = some row ∧
    g.addr.offset.toNat + g.len ≤ row.length
  before : grants.Pairwise Grant.Before

theorem empty_tracks (config : Config) : (empty config).Tracks [] :=
  ⟨empty_bounded config, by simp, .nil⟩

/-- The value of a byte given out. -/
def byte? (s : PageStore) (i k : Nat) : Option UInt8 := (s.row? i).bind (·[k]?)

theorem write_cases {s : PageStore} (bounded : s.Bounded) (addr : Addr) (bytes : List UInt8) :
    (∃ e, s.write addr bytes = .error e) ∨
      ∃ i row t, addr.page?.map UInt32.toNat = some i ∧ s.row? i = some row ∧
        addr.offset.toNat + bytes.length ≤ row.length ∧ s.write addr bytes = .ok t ∧ t.Bounded ∧
        ∀ j, t.row? j = if j = i then some (splice row addr.offset.toNat bytes) else s.row? j := by
  cases written : s.write addr bytes with
  | error e => exact .inl ⟨e, rfl⟩
  | ok u =>
    obtain ⟨i, page, located, _⟩ := write_eq_ok_iff.mp written
    obtain ⟨i, row, index, found, inside⟩ := locate_eq_ok_iff_row.mp ⟨_, located⟩
    obtain ⟨t, same, bounded', _, rows⟩ := write_of_row bounded index found inside
    obtain rfl : u = t := Except.ok.inj (written.symm.trans same)
    exact .inr ⟨i, row, u, index, found, inside, rfl, bounded', rows⟩

theorem splice_outside {whole part : List UInt8} {start k : Nat}
    (inside : start + part.length ≤ whole.length)
    (outside : ¬ (start ≤ k ∧ k < start + part.length)) :
    (splice whole start part)[k]? = whole[k]? := by
  have at_start : min start whole.length = start := Nat.min_eq_left (by omega)
  simp only [splice, List.getElem?_append, List.length_append, List.length_take, at_start,
    List.getElem?_take, List.getElem?_drop]
  by_cases before : k < start
  · rw [if_pos (by omega), if_pos before, if_pos before]
  · rw [if_neg (by omega)]
    congr 1
    omega

theorem Tracks.reserve {s t : PageStore} {grants : List Grant} (tracks : s.Tracks grants)
    {len : Nat} {addr : Addr} (gives : s.GivesOut len addr t) :
    t.Tracks (grants ++ [⟨addr, len⟩]) := by
  obtain ⟨i, draft, index, last, length, position, rows⟩ := gives.row
  refine ⟨gives.bounded, ?_, ?_⟩
  · intro g member
    rcases List.mem_append.mp member with old | new
    · obtain ⟨j, row, at_g, found, inside⟩ := tracks.rows g old
      by_cases same : j = i
      · subst same
        refine ⟨j, row ++ draft, at_g, by rw [rows, if_pos rfl, found]; rfl, ?_⟩
        rw [List.length_append]
        omega
      · exact ⟨j, row, at_g, by rw [rows, if_neg same, found], inside⟩
    · obtain rfl := List.mem_singleton.mp new
      refine ⟨i, (s.row? i).getD [] ++ draft, index, by rw [rows, if_pos rfl], ?_⟩
      exact Nat.le_of_eq (by rw [List.length_append, position, length])
  · refine List.pairwise_append.mpr ⟨tracks.before, List.pairwise_singleton .., ?_⟩
    intro g old h new
    obtain rfl := List.mem_singleton.mp new
    obtain ⟨j, row, at_g, found, inside⟩ := tracks.rows g old
    refine ⟨j, i, at_g, index, ?_⟩
    by_cases same : j = i
    · subst same
      rw [found] at position
      exact .inr ⟨rfl, by simpa [position] using inside⟩
    · -- the new bytes are on the last page
      have present : (t.row? j).isSome := by rw [rows, if_neg same, found]; rfl
      have := row?_isSome_iff.mp present
      exact .inl (by omega)

theorem Tracks.write {s t : PageStore} {grants : List Grant} (tracks : s.Tracks grants)
    (bounded : t.Bounded) {i start : Nat} {row bytes : List UInt8} (found : s.row? i = some row)
    (inside : start + bytes.length ≤ row.length)
    (rows : ∀ j, t.row? j = if j = i then some (splice row start bytes) else s.row? j) :
    t.Tracks grants := by
  refine ⟨bounded, ?_, tracks.before⟩
  intro g member
  obtain ⟨j, row', at_g, found', within⟩ := tracks.rows g member
  by_cases same : j = i
  · subst same
    obtain rfl := Option.some.inj (found.symm.trans found')
    exact ⟨j, _, at_g, by rw [rows, if_pos rfl], by rw [splice_length inside]; exact within⟩
  · exact ⟨j, row', at_g, by rw [rows, if_neg same, found'], within⟩

theorem byte?_reserve {s t : PageStore} {len : Nat} {addr : Addr} (gives : s.GivesOut len addr t)
    {j k : Nat} {b : UInt8} (old : s.byte? j k = some b) : t.byte? j k = some b := by
  obtain ⟨i, draft, _, _, _, _, rows⟩ := gives.row
  obtain ⟨row, found, at_k⟩ := Option.bind_eq_some_iff.mp old
  unfold byte?
  rw [rows]
  split
  case isTrue same =>
    subst same
    have bound := (List.getElem?_eq_some_iff.mp at_k).1
    rw [found, Option.bind_some, Option.getD_some, List.getElem?_append_left bound, at_k]
  case isFalse => exact old

theorem byte?_write {s t : PageStore} {addr : Addr} {i : Nat} {row bytes : List UInt8}
    (index : addr.page?.map UInt32.toNat = some i) (found : s.row? i = some row)
    (inside : addr.offset.toNat + bytes.length ≤ row.length)
    (rows : ∀ j, t.row? j = if j = i then some (splice row addr.offset.toNat bytes) else s.row? j)
    {j k : Nat} (elsewhere : ¬ addr.Spans bytes.length j k) : t.byte? j k = s.byte? j k := by
  unfold byte?
  rw [rows]
  split
  case isTrue same =>
    subst same
    rw [found, Option.bind_some, Option.bind_some]
    exact splice_outside inside (fun within => elsewhere ⟨index, within⟩)
  case isFalse => rfl

/-- A call keeps what the store keeps, and every byte it does not write over. -/
theorem Tracks.call {s : PageStore} {grants : List Grant} (tracks : s.Tracks grants) (c : Call) :
    (s.call c).2.Tracks (grants ++ (s.call c).1) ∧
      ∀ i k b, s.byte? i k = some b → ¬ c.Touches i k → (s.call c).2.byte? i k = some b := by
  cases c with
  | reserve len =>
    rcases reserve_cases tracks.bounded len with ⟨n, m, refused, _⟩ | ⟨addr, t, served, _, gives⟩
    · simp only [PageStore.call, refused, List.append_nil]
      exact ⟨tracks, fun _ _ _ old _ => old⟩
    · simp only [PageStore.call, served]
      exact ⟨tracks.reserve gives, fun _ _ _ old _ => byte?_reserve gives old⟩
  | write addr bytes =>
    rcases write_cases tracks.bounded addr bytes with
      ⟨e, refused⟩ | ⟨i, row, t, index, found, inside, written, bounded, rows⟩
    · simp only [PageStore.call, refused, List.append_nil]
      exact ⟨tracks, fun _ _ _ old _ => old⟩
    · simp only [PageStore.call, written, List.append_nil]
      refine ⟨tracks.write bounded found inside rows, ?_⟩
      intro j k b old untouched
      rw [byte?_write index found inside rows untouched, old]

theorem Tracks.callAll {s : PageStore} {grants : List Grant} (tracks : s.Tracks grants)
    (cs : List Call) :
    (callAll cs s).2.Tracks (grants ++ (PageStore.callAll cs s).1) ∧
      ∀ i k b, s.byte? i k = some b → (∀ c ∈ cs, ¬ c.Touches i k) →
        (PageStore.callAll cs s).2.byte? i k = some b := by
  induction cs generalizing s grants with
  | nil => exact ⟨by simpa [PageStore.callAll] using tracks, fun _ _ _ old _ => old⟩
  | cons c cs ih =>
    obtain ⟨tracks', kept⟩ := tracks.call c
    obtain ⟨tracks'', kept'⟩ := ih tracks'
    refine ⟨by simpa [PageStore.callAll] using tracks'', ?_⟩
    intro i k b old untouched
    exact kept' i k b (kept i k b old (untouched c (by simp)))
      (fun d member => untouched d (by simp [member]))

theorem takes_of_fits {s : PageStore} (bounded : s.Bounded) {len : Nat}
    (fits : s.fits len = true) : s.Takes len := by
  obtain ⟨page, active, _, alloc⟩ := alloc_of_fits bounded fits
  obtain ⟨addr, made, _, _⟩ := bounded.address active
  exact ⟨page, _, _, addr, active, alloc, made, by simp only [take, active, alloc, made]⟩

theorem reserve_error_iff {s t : PageStore} (bounded : s.Bounded) {len : Nat} {e : MemoryError} :
    s.reserve len = (.error e, t) ↔
      s.fits len = false ∧ s.openPage (max len s.config.pageSize) = .error e ∧ t = s := by
  unfold PageStore.reserve
  cases fits : s.fits len with
  | true =>
    obtain ⟨_, _, taken, _⟩ := take_of_fits bounded fits
    simp [taken]
  | false =>
    cases opened : s.openPage (max len s.config.pageSize) with
    | error fault => simp [eq_comm]
    | ok u =>
      obtain ⟨_, _, taken, _⟩ :=
        take_of_fits (openPage_bounded bounded (Nat.le_max_right ..) opened)
          (fits_openPage opened (Nat.le_max_left ..))
      simp [taken]

/-- What a grant reads is what stands in its row. -/
theorem Tracks.read {s : PageStore} {grants : List Grant} (tracks : s.Tracks grants) {g : Grant}
    (member : g ∈ grants) :
    ∃ i bytes, g.addr.page?.map UInt32.toNat = some i ∧ s.read g.addr g.len = .ok bytes ∧
      bytes.length = g.len ∧
      ∀ (k : Nat) (bound : k < bytes.length),
        s.byte? i (g.addr.offset.toNat + k) = some bytes[k] := by
  obtain ⟨i, row, index, found, inside⟩ := tracks.rows g member
  refine ⟨i, _, index, read_of_row index found inside, ?_, ?_⟩
  · rw [List.length_take, List.length_drop]
    omega
  · intro k bound
    rw [List.length_take, List.length_drop] at bound
    rw [byte?, found, Option.bind_some, List.getElem?_eq_getElem (by omega), List.getElem_take,
      List.getElem_drop]

theorem Tracks.serves {s : PageStore} {grants : List Grant} (tracks : s.Tracks grants) :
    s.Serves grants where
  inside := by
    intro g member
    obtain ⟨i, row, index, found, within⟩ := tracks.rows g member
    obtain ⟨page, at_i, rfl⟩ := Option.map_eq_some_iff.mp found
    exact ⟨i, page, index, at_i, by simpa using within⟩
  readable := by
    intro g member
    obtain ⟨_, bytes, _, read, length, _⟩ := tracks.read member
    exact ⟨bytes, read, length⟩
  apart := tracks.before.imp Grant.Before.apart
  increasing := by
    refine List.Pairwise.imp_of_mem ?_ (tracks.before.filter _)
    intro g h member _ before
    exact before.raw_lt (by simpa using (List.mem_filter.mp member).2)
  takes := by
    intro len
    refine ⟨takes_of_fits tracks.bounded, ?_⟩
    intro t opened
    exact takes_of_fits (openPage_bounded tracks.bounded (Nat.le_max_right ..) opened)
      (fits_openPage opened (Nat.le_max_left ..))
  refuses := fun _ _ _ => reserve_error_iff tracks.bounded

/-- Whatever was granted stays readable at its address, and only a write over a byte changes it. -/
theorem serves_history (config : Config) (before later : List Call) :
    let (grants, s) := callAll before (empty config)
    let (more, t) := callAll later s
    s.Serves grants ∧ t.Serves (grants ++ more) ∧
      ∀ g ∈ grants, ∃ page old new, g.addr.page?.map UInt32.toNat = some page ∧
        s.read g.addr g.len = .ok old ∧ t.read g.addr g.len = .ok new ∧
        ∀ k, old[k]? ≠ new[k]? →
          ∃ c ∈ later, c.Touches page (g.addr.offset.toNat + k) := by
  obtain ⟨tracks, _⟩ := (empty_tracks config).callAll before
  obtain ⟨tracks', kept⟩ := tracks.callAll later
  rw [List.nil_append] at tracks tracks'
  refine ⟨tracks.serves, tracks'.serves, ?_⟩
  intro g member
  obtain ⟨i, old, index, read, length, bytes⟩ := tracks.read member
  obtain ⟨j, new, index', read', length', bytes'⟩ := tracks'.read (List.mem_append_left _ member)
  obtain rfl : i = j := Option.some.inj (index.symm.trans index')
  refine ⟨i, old, new, index, read, read', ?_⟩
  intro k changed
  apply Classical.byContradiction
  intro untouched
  apply changed
  by_cases bound : k < g.len
  · have same := kept i _ _ (bytes k (by omega)) fun c member touches =>
      untouched ⟨c, member, touches⟩
    rw [bytes' k (by omega)] at same
    simp [length, length', bound, Option.some.inj same]
  · rw [List.getElem?_eq_none (by omega), List.getElem?_eq_none (by omega)]

/-- Two requests that need a page each, a write over the first, and a request that the ceiling
refuses. -/
def rolloverSample : List Call :=
  [.reserve 40, .write ⟨0x100000000⟩ [1, 2, 3], .reserve 40, .reserve 40]

theorem serves_history_rolloverSample :
    (callAll rolloverSample (empty ⟨64, some 128⟩)).1 =
        [⟨⟨0x100000000⟩, 40⟩, ⟨⟨0x200000000⟩, 40⟩] ∧
      (callAll rolloverSample (empty ⟨64, some 128⟩)).2.Serves
        [⟨⟨0x100000000⟩, 40⟩, ⟨⟨0x200000000⟩, 40⟩] ∧
      ((callAll rolloverSample (empty ⟨64, some 128⟩)).2.read ⟨0x100000000⟩ 3).toOption =
        some [1, 2, 3] ∧
      ((callAll rolloverSample (empty ⟨64, some 128⟩)).2.reserve 40).1.toOption = none := by
  have granted : (callAll rolloverSample (empty ⟨64, some 128⟩)).1 =
      [⟨⟨0x100000000⟩, 40⟩, ⟨⟨0x200000000⟩, 40⟩] := by decide +kernel
  have serves : (callAll rolloverSample (empty ⟨64, some 128⟩)).2.Serves
      (callAll rolloverSample (empty ⟨64, some 128⟩)).1 :=
    (serves_history ⟨64, some 128⟩ rolloverSample []).1
  rw [granted] at serves
  exact ⟨granted, serves, by decide +kernel, by decide +kernel⟩

end PageStore
end ValueArena
