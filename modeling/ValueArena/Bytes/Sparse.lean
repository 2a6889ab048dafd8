/-!
Bytes at unbounded positions, zero where nothing was written. They lie in blocks, and only blocks
that were written to take space. `get_set` and `get_write` say what each write does to the byte at
every position.
-/
namespace ValueArena

/-- A node holds block 0; the odd-numbered blocks lie in one part, the other even ones in the other,
each renumbered from 0. -/
inductive SparseBytes where
  | blank
  | node (block : Array UInt8) (odds evens : SparseBytes)
  deriving Repr

namespace SparseBytes

/-- A stored block may be shorter. The bytes it lacks are zero. -/
abbrev blockSize : Nat := 64

/-- The bytes of a block up to the last one written. -/
def block : SparseBytes → Nat → Array UInt8
  | .blank, _ => #[]
  | .node b _ _, 0 => b
  | .node _ odds evens, n + 1 => if n % 2 = 0 then odds.block (n / 2) else evens.block (n / 2)

def get (m : SparseBytes) (i : Nat) : UInt8 := (m.block (i / blockSize)).getD (i % blockSize) 0

/-- A block with one byte replaced. -/
def place (bytes : Array UInt8) (i : Nat) (b : UInt8) : Array UInt8 :=
  if i < bytes.size then bytes.setIfInBounds i b
  else (bytes ++ Array.replicate (i - bytes.size) 0).push b

def changeFirst (f : Array UInt8 → Array UInt8) : SparseBytes → SparseBytes
  | .blank => .node (f #[]) .blank .blank
  | .node b odds evens => .node (f b) odds evens

/-- Changes block `n` if `n` is at most `steps`; each step more than halves it. -/
def changeWithin (f : Array UInt8 → Array UInt8) : Nat → SparseBytes → Nat → SparseBytes
  | _, m, 0 => m.changeFirst f
  | 0, m, _ + 1 => m
  | steps + 1, .blank, n + 1 =>
    if n % 2 = 0 then .node #[] (changeWithin f steps .blank (n / 2)) .blank
    else .node #[] .blank (changeWithin f steps .blank (n / 2))
  | steps + 1, .node b odds evens, n + 1 =>
    if n % 2 = 0 then .node b (changeWithin f steps odds (n / 2)) evens
    else .node b odds (changeWithin f steps evens (n / 2))

def changeBlock (f : Array UInt8 → Array UInt8) (m : SparseBytes) (n : Nat) : SparseBytes :=
  changeWithin f n m n

def set (m : SparseBytes) (i : Nat) (b : UInt8) : SparseBytes :=
  m.changeBlock (fun bytes => place bytes (i % blockSize) b) (i / blockSize)

/-- The values at the positions below `len`, followed by `rest`. -/
@[specialize] def valuesOnto (f : Nat → UInt8) : Nat → List UInt8 → List UInt8
  | 0, rest => rest
  | len + 1, rest => valuesOnto f len (f len :: rest)

/-- The `len` bytes from `start` on. A block that holds all of them is looked up once. -/
def read (m : SparseBytes) (start len : Nat) : List UInt8 :=
  if start % blockSize + len ≤ blockSize then
    let bytes := m.block (start / blockSize)
    let position := start % blockSize
    valuesOnto (fun i => bytes.getD (position + i) 0) len []
  else valuesOnto (fun i => m.get (start + i)) len []

def write (m : SparseBytes) (start : Nat) : List UInt8 → SparseBytes
  | [] => m
  | b :: bs => (m.set start b).write (start + 1) bs

@[simp] theorem block_blank (n : Nat) : blank.block n = #[] := by cases n <;> rfl

@[simp] theorem get_blank (i : Nat) : blank.get i = 0 := by simp [get]

theorem getD_place (bytes : Array UInt8) (i j : Nat) (b : UInt8) :
    (place bytes i b).getD j 0 = if j = i then b else bytes.getD j 0 := by
  simp only [Array.getD_eq_getD_getElem?]
  unfold place
  split <;> grind

theorem block_changeFirst (f : Array UInt8 → Array UInt8) (m : SparseBytes) (k : Nat) :
    (m.changeFirst f).block k = if k = 0 then f (m.block k) else m.block k := by
  cases m <;> cases k <;> simp [changeFirst, block]

theorem block_changeWithin (f : Array UInt8 → Array UInt8) {steps n : Nat} (h : n ≤ steps)
    (m : SparseBytes) (k : Nat) :
    (changeWithin f steps m n).block k = if k = n then f (m.block k) else m.block k := by
  induction steps generalizing m n k with
  | zero =>
    obtain rfl : n = 0 := by omega
    cases m <;> exact block_changeFirst f _ k
  | succ steps ih =>
    cases n with
    | zero => cases m <;> exact block_changeFirst f _ k
    | succ n =>
      have half : n / 2 ≤ steps := by omega
      cases m <;> cases k <;> grind [changeWithin, block, block_blank]

theorem block_changeBlock (f : Array UInt8 → Array UInt8) (m : SparseBytes) (n k : Nat) :
    (m.changeBlock f n).block k = if k = n then f (m.block k) else m.block k :=
  block_changeWithin f (Nat.le_refl n) m k

theorem get_set (m : SparseBytes) (i j : Nat) (b : UInt8) :
    (m.set i b).get j = if j = i then b else m.get j := by
  simp only [get, set, block_changeBlock]
  split
  case isTrue same =>
    have position : j % blockSize = i % blockSize ↔ j = i := by
      simp only [blockSize] at *
      omega
    simp only [getD_place, position, same]
  case isFalse differs =>
    have other : j ≠ i := fun h => differs (by rw [h])
    rw [if_neg other]

theorem get_write (m : SparseBytes) (start j : Nat) (bs : List UInt8) :
    (m.write start bs).get j = if start ≤ j then bs[j - start]?.getD (m.get j) else m.get j := by
  induction bs generalizing m start with
  | nil => simp [write]
  | cons b bs ih =>
    rw [write, ih, get_set]
    by_cases past : start + 1 ≤ j
    · have step : j - start = (j - (start + 1)) + 1 := by omega
      have other : j ≠ start := by omega
      simp [past, step, other, Nat.le_of_succ_le past]
    · by_cases here : j = start
      · subst here
        rw [if_neg past]
        simp
      · have before : ¬ start ≤ j := by omega
        simp [past, here, before]

theorem valuesOnto_eq (f : Nat → UInt8) (len : Nat) (rest : List UInt8) :
    valuesOnto f len rest = (List.range len).map f ++ rest := by
  induction len generalizing rest with
  | zero => rfl
  | succ len ih => simp [valuesOnto, ih, List.range_succ]

theorem read_eq_map (m : SparseBytes) (start len : Nat) :
    m.read start len = (List.range len).map fun i => m.get (start + i) := by
  unfold read
  split
  case isTrue inside =>
    rw [valuesOnto_eq, List.append_nil]
    refine List.map_congr_left fun i h => ?_
    have := List.mem_range.mp h
    have number : (start + i) / blockSize = start / blockSize := by
      simp only [blockSize] at *
      omega
    have position : (start + i) % blockSize = start % blockSize + i := by
      simp only [blockSize] at *
      omega
    rw [get, number, position]
  case isFalse => rw [valuesOnto_eq, List.append_nil]

@[simp] theorem length_read (m : SparseBytes) (start len : Nat) :
    (m.read start len).length = len := by simp [read_eq_map]

theorem read_write (m : SparseBytes) (start : Nat) (bs : List UInt8) :
    (m.write start bs).read start bs.length = bs := by
  apply List.ext_getElem (by simp)
  intro i _ h
  simp [read_eq_map, get_write, h]

end SparseBytes
end ValueArena
