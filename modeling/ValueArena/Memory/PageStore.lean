import ValueArena.Bytes.FixedWidth
import ValueArena.Memory.Config
import ValueArena.Memory.Page

/-!
A growing row of pages. Bytes are given out from the last page; a request that does not fit there
opens a new one and leaves the rest of the old one unused. Pages stay where they are, so an address
keeps its meaning.
-/
namespace ValueArena

structure PageStore where
  config : Config
  pages : Array Page
  /-- The capacities of all pages opened so far. -/
  reserved : Nat
  deriving Repr

namespace PageStore

def empty (config : Config) : PageStore := ⟨config, #[], 0⟩

def pageCount (s : PageStore) : Nat := s.pages.size

/-- The last page, which alone gives out bytes. -/
def active? (s : PageStore) : Option Page := s.pages.back?

def activeSize (s : PageStore) : Nat :=
  match s.active? with
  | none => 0
  | some p => p.capacity

def activeOffset (s : PageStore) : Nat :=
  match s.active? with
  | none => 0
  | some p => p.used

/-- Free bytes of the last page. -/
def remaining (s : PageStore) : Nat :=
  match s.active? with
  | none => 0
  | some p => p.remaining

/-- Whether the last page holds `len` more bytes. -/
def fits (s : PageStore) (len : Nat) : Bool :=
  match s.active? with
  | none => false
  | some p => len ≤ p.remaining

def put (s : PageStore) (index : Nat) (page : Page) : PageStore :=
  { s with pages := s.pages.setIfInBounds index page }

/-- Whether `reserved` bytes in all fit a 64-bit size and the ceiling. -/
def canReserve (config : Config) (reserved : Nat) : Bool :=
  reserved < 0x10000000000000000 && config.allows reserved

def openPage (s : PageStore) (size : Nat) : Except MemoryError PageStore :=
  let refused := .error (.allocationFailed size s.reserved)
  if canReserve s.config (s.reserved + size) && size ≤ 0xFFFFFFFF && s.pages.size < 0xFFFFFFFE then
    match Page.ofCapacity? size (s.config.provides s.pages.size size) with
    | some page => .ok { s with pages := s.pages.push page, reserved := s.reserved + size }
    | none => refused
  else refused

/-- Gives out `len` bytes of the last page. -/
def take (s : PageStore) (len : Nat) : Except MemoryError Addr × PageStore :=
  let refused := .error (.allocationFailed len s.reserved)
  let last := s.pages.size - 1
  match s.active? with
  | none => (refused, s)
  | some page =>
    match page.alloc? len with
    | none => (refused, s)
    | some (offset, page) =>
      match Addr.make? (UInt32.ofNat last) offset with
      | none => (refused, s.put last page)
      | some addr => (.ok addr, s.put last page)

/-- Gives out `len` bytes, from a new page if the last one is too full. -/
def reserve (s : PageStore) (len : Nat) : Except MemoryError Addr × PageStore :=
  if s.fits len then s.take len
  else
    match s.openPage (max len s.config.pageSize) with
    | .error e => (.error e, s)
    | .ok s => s.take len

/-- Whether requests of these lengths, in order, stay under the ceiling. `remaining` bytes are free
in the last page. -/
def wouldFitFrom (config : Config) : Nat → Nat → List Nat → Bool
  | _, _, [] => true
  | remaining, reserved, len :: lens =>
    if len ≤ remaining then wouldFitFrom config (remaining - len) reserved lens
    else
      let size := max len config.pageSize
      canReserve config (reserved + size) &&
        wouldFitFrom config (size - len) (reserved + size) lens

def wouldFit (s : PageStore) (lens : List Nat) : Bool :=
  wouldFitFrom s.config s.remaining s.reserved lens

/-- The page that an address points into, with its index, if `len` bytes there have been given
out. -/
def locate (s : PageStore) (addr : Addr) (len : Nat) : Except MemoryError (Nat × Page) :=
  let invalid := .error (.invalidAddress addr)
  match addr.page? with
  | none => invalid
  | some index =>
    match s.pages[index.toNat]? with
    | none => invalid
    | some page => if page.holds addr.offset len then .ok (index.toNat, page) else invalid

def read (s : PageStore) (addr : Addr) (len : Nat) : Except MemoryError (List UInt8) := do
  let (_, page) ← s.locate addr len
  return page.bytes.read addr.offset.toNat len

def write (s : PageStore) (addr : Addr) (bs : List UInt8) : Except MemoryError PageStore := do
  let (index, page) ← s.locate addr bs.length
  return s.put index { page with bytes := page.bytes.write addr.offset.toNat bs }

def load (α : Type) [FixedWidth α] (s : PageStore) (addr : Addr) : Except MemoryError α :=
  (s.read addr (FixedWidth.width α)).map FixedWidth.decode

def store [FixedWidth α] (s : PageStore) (addr : Addr) (v : α) : Except MemoryError PageStore :=
  s.write addr (FixedWidth.encode v)

theorem getElem?_put (s : PageStore) (index i : Nat) (page : Page) :
    (s.put index page).pages[i]? =
      if index = i then if index < s.pages.size then some page else none else s.pages[i]? := by
  simp [put, Array.getElem?_setIfInBounds]

theorem locate_eq_ok_iff {s : PageStore} {addr : Addr} {len i : Nat} {page : Page} :
    s.locate addr len = .ok (i, page) ↔
      addr.page?.map UInt32.toNat = some i ∧ s.pages[i]? = some page ∧
        addr.offset.toNat + len ≤ page.used := by
  unfold locate
  cases addr.page? with
  | none => simp
  | some index =>
    cases found : s.pages[index.toNat]? with
    | none => grind
    | some p => grind [Page.holds]

theorem read_eq_ok_iff {s : PageStore} {addr : Addr} {len : Nat} {bs : List UInt8} :
    s.read addr len = .ok bs ↔
      ∃ i page, s.locate addr len = .ok (i, page) ∧ page.bytes.read addr.offset.toNat len = bs := by
  unfold read
  cases s.locate addr len with
  | error e => simp [bind, Except.bind]
  | ok found =>
    obtain ⟨i, page⟩ := found
    simp [bind, Except.bind, pure, Except.pure, and_assoc]

theorem write_eq_ok_iff {s t : PageStore} {addr : Addr} {bs : List UInt8} :
    s.write addr bs = .ok t ↔
      ∃ i page, s.locate addr bs.length = .ok (i, page) ∧
        s.put i { page with bytes := page.bytes.write addr.offset.toNat bs } = t := by
  unfold write
  cases s.locate addr bs.length with
  | error e => simp [bind, Except.bind]
  | ok found =>
    obtain ⟨i, page⟩ := found
    simp [bind, Except.bind, pure, Except.pure, and_assoc]

theorem read_of_write {s t : PageStore} {addr : Addr} {bs : List UInt8}
    (h : s.write addr bs = .ok t) : t.read addr bs.length = .ok bs := by
  obtain ⟨i, page, located, rfl⟩ := write_eq_ok_iff.mp h
  obtain ⟨index, found, inside⟩ := locate_eq_ok_iff.mp located
  have bound : i < s.pages.size := (Array.getElem?_eq_some_iff.mp found).1
  refine read_eq_ok_iff.mpr ⟨i, { page with bytes := page.bytes.write addr.offset.toNat bs }, ?_,
    SparseBytes.read_write ..⟩
  exact locate_eq_ok_iff.mpr ⟨index, by simp [getElem?_put, bound], inside⟩

theorem load_of_store [FixedWidth α] {s t : PageStore} {addr : Addr} {v : α}
    (h : s.store addr v = .ok t) : t.load α addr = .ok v := by
  have back := read_of_write h
  rw [FixedWidth.length_encode] at back
  simp [load, back, Except.map, FixedWidth.decode_encode]

end PageStore
end ValueArena
