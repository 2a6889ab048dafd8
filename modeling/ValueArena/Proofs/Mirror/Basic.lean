import ValueArena.Proofs.Heap.Growth

/-!
Two heaps that hold the same values at different addresses. A mirror pairs the addresses of one with
those of the other, each with at most one; paired cells hold the same but for their links, which are
null on both sides or lead to paired cells again.
-/
namespace ValueArena

structure Mirror where
  left : Heap
  right : Heap
  pairs : Addr → Addr → Prop

namespace Mirror

/-- Two links: both null, or to paired cells. -/
def Link (M : Mirror) (x y : Addr) : Prop := x = .null ∧ y = .null ∨ M.pairs x y

/-- Paired addresses of a cell of this kind. -/
def To (M : Mirror) (kind : Kind) (x y : Addr) : Prop :=
  M.pairs x y ∧ ∃ c, M.left x = some c ∧ c.kind = kind

/-- Two links to an item, if to anything. -/
def Next (M : Mirror) (x y : Addr) : Prop := x = .null ∧ y = .null ∨ M.To .listItem x y

inductive Alike (M : Mirror) : Cell → Cell → Prop
  | plain (content : Content) : Alike M (.plain content) (.plain content)
  | list {first first' last last' : Addr} (at_first : M.Next first first')
      (at_last : M.Next last last') (count : UInt32) :
      Alike M (.list first last count) (.list first' last' count)
  | item {content content' next next' : Addr} (at_content : M.Link content content')
      (at_next : M.Next next next') : Alike M (.item content next) (.item content' next')
  | object {keys keys' values values' : Addr} (at_keys : M.To .list keys keys')
      (at_values : M.To .list values values') :
      Alike M (.object keys values) (.object keys' values')

structure Sound (M : Mirror) : Prop where
  left_null : M.left .null = none
  right_null : M.right .null = none
  cells : ∀ x y, M.pairs x y → ∃ c d, M.left x = some c ∧ M.right y = some d ∧ M.Alike c d
  one : ∀ x y x' y', M.pairs x y → M.pairs x' y' → (x = x' ↔ y = y')

/-- What was paired stays paired, and the cells of both sides stay. -/
structure Leads (M N : Mirror) : Prop where
  left : M.left.Grows N.left
  right : M.right.Grows N.right
  pairs : ∀ x y, M.pairs x y → N.pairs x y

def empty : Mirror := ⟨Heap.empty, Heap.empty, fun _ _ => False⟩

/-- A cell more on each side, paired with each other. -/
def add (M : Mirror) (x y : Addr) (c d : Cell) : Mirror where
  left := M.left.put x c
  right := M.right.put y d
  pairs x' y' := M.pairs x' y' ∨ x' = x ∧ y' = y

/-- Other cells at a pair of addresses. -/
def put (M : Mirror) (x y : Addr) (c d : Cell) : Mirror where
  left := M.left.put x c
  right := M.right.put y d
  pairs := M.pairs

variable {M N P : Mirror} {x y x' y' : Addr} {c d c' d' : Cell} {k : Kind}

theorem empty_sound : empty.Sound := ⟨rfl, rfl, nofun, nofun⟩

theorem Leads.refl (M : Mirror) : M.Leads M := ⟨.refl _, .refl _, fun _ _ paired => paired⟩

theorem Leads.trans (first : M.Leads N) (second : N.Leads P) : M.Leads P :=
  ⟨first.left.trans second.left, first.right.trans second.right,
    fun x y paired => second.pairs x y (first.pairs x y paired)⟩

theorem Link.leads (link : M.Link x y) (leads : M.Leads N) : N.Link x y := by
  rcases link with null | paired
  · exact .inl null
  · exact .inr (leads.pairs x y paired)

theorem To.leads (pair : M.To k x y) (leads : M.Leads N) : N.To k x y := by
  obtain ⟨paired, c, found, eq⟩ := pair
  obtain ⟨d, found', becomes⟩ := leads.left x c found
  exact ⟨leads.pairs x y paired, d, found', becomes.kind.trans eq⟩

theorem Next.leads (next : M.Next x y) (leads : M.Leads N) : N.Next x y := by
  rcases next with null | pair
  · exact .inl null
  · exact .inr (pair.leads leads)

theorem Next.link (next : M.Next x y) : M.Link x y := by
  rcases next with null | pair
  · exact .inl null
  · exact .inr pair.1

theorem Alike.leads (alike : M.Alike c d) (leads : M.Leads N) : N.Alike c d := by
  cases alike with
  | plain content => exact .plain content
  | list first last count => exact .list (first.leads leads) (last.leads leads) count
  | item content next => exact .item (content.leads leads) (next.leads leads)
  | object keys values => exact .object (keys.leads leads) (values.leads leads)

theorem Alike.kind (alike : M.Alike c d) : c.kind = d.kind := by cases alike <;> rfl

theorem Alike.size (alike : M.Alike c d) : c.size = d.size := by
  have fixed : ∀ {c d : Cell}, c.kind ≠ .string → d.kind = c.kind → c.size = d.size := by
    intro c d fixed same
    rw [Cell.size, Cell.size, Cell.payload_length fixed, Cell.payload_length (same ▸ fixed), same]
  cases alike with
  | plain content => rfl
  | list | item | object => exact fixed (by simp [Cell.kind]) rfl

/-- A pair of cells of a kind. -/
theorem To.cells (pair : M.To k x y) (sound : M.Sound) :
    ∃ c d, M.left x = some c ∧ M.right y = some d ∧ M.Alike c d ∧ c.kind = k := by
  obtain ⟨paired, c, found, eq⟩ := pair
  obtain ⟨c', d, at_x, at_y, alike⟩ := sound.cells x y paired
  rw [found] at at_x
  cases at_x
  exact ⟨c, d, found, at_y, alike, eq⟩

theorem To.list (pair : M.To .list x y) (sound : M.Sound) :
    ∃ first first' last last' count, M.left x = some (.list first last count) ∧
      M.right y = some (.list first' last' count) ∧ M.Next first first' ∧ M.Next last last' := by
  obtain ⟨c, d, at_x, at_y, alike, kind⟩ := pair.cells sound
  obtain ⟨first, last, count, rfl⟩ := Cell.eq_list_of_kind kind
  cases alike with
  | list at_first at_last => exact ⟨_, _, _, _, _, at_x, at_y, at_first, at_last⟩

theorem To.item (pair : M.To .listItem x y) (sound : M.Sound) :
    ∃ content content' next next', M.left x = some (.item content next) ∧
      M.right y = some (.item content' next') ∧ M.Link content content' ∧ M.Next next next' := by
  obtain ⟨c, d, at_x, at_y, alike, kind⟩ := pair.cells sound
  obtain ⟨content, next, rfl⟩ := Cell.eq_item_of_kind kind
  cases alike with
  | item at_content at_next => exact ⟨_, _, _, _, at_x, at_y, at_content, at_next⟩

theorem To.object (pair : M.To .object x y) (sound : M.Sound) :
    ∃ keys keys' values values', M.left x = some (.object keys values) ∧
      M.right y = some (.object keys' values') ∧ M.To .list keys keys' ∧
      M.To .list values values' := by
  obtain ⟨c, d, at_x, at_y, alike, kind⟩ := pair.cells sound
  obtain ⟨keys, values, rfl⟩ := Cell.eq_object_of_kind kind
  cases alike with
  | object at_keys at_values => exact ⟨_, _, _, _, at_x, at_y, at_keys, at_values⟩

/-- No link leads from null to a cell. -/
theorem Sound.ne_null (sound : M.Sound) (paired : M.pairs x y) : x ≠ .null ∧ y ≠ .null := by
  obtain ⟨c, d, at_x, at_y, _⟩ := sound.cells x y paired
  exact ⟨Heap.ne_of_fresh at_x sound.left_null, Heap.ne_of_fresh at_y sound.right_null⟩

theorem Link.null_iff (link : M.Link x y) (sound : M.Sound) : x = .null ↔ y = .null := by
  rcases link with ⟨rfl, rfl⟩ | paired
  · exact Iff.rfl
  · obtain ⟨left, right⟩ := sound.ne_null paired
    exact iff_of_false left right

/-- Links are the same address on both sides or on neither. -/
theorem Link.eq_iff (first : M.Link x y) (second : M.Link x' y') (sound : M.Sound) :
    x = x' ↔ y = y' := by
  rcases first with ⟨rfl, rfl⟩ | paired
  · rw [eq_comm, eq_comm (a := Addr.null), second.null_iff sound]
  · rcases second with ⟨rfl, rfl⟩ | paired'
    · exact Link.null_iff (.inr paired) sound
    · exact sound.one x y x' y' paired paired'

theorem leads_add (fresh_left : M.left x = none) (fresh_right : M.right y = none) (c d : Cell) :
    M.Leads (M.add x y c d) :=
  ⟨Heap.grows_put_fresh fresh_left c, Heap.grows_put_fresh fresh_right d,
    fun _ _ paired => .inl paired⟩

theorem leads_put (at_x : M.left x = some c) (at_y : M.right y = some d) (left : c.Becomes c')
    (right : d.Becomes d') : M.Leads (M.put x y c' d') :=
  ⟨Heap.grows_put at_x left, Heap.grows_put at_y right, fun _ _ paired => paired⟩

theorem to_add (M : Mirror) (x y : Addr) (c d : Cell) : (M.add x y c d).To c.kind x y :=
  ⟨.inr ⟨rfl, rfl⟩, c, Heap.put_self .., rfl⟩

theorem Sound.add (sound : M.Sound) (left_null : M.left.put x c .null = none)
    (right_null : M.right.put y d .null = none) (fresh_left : M.left x = none)
    (fresh_right : M.right y = none) (alike : M.Alike c d) : (M.add x y c d).Sound := by
  have leads := leads_add fresh_left fresh_right c d
  -- Cells lie at old pairs on both sides, so the new pair shares no address with them.
  have old : ∀ {x' y' : Addr}, M.pairs x' y' → x' ≠ x ∧ y' ≠ y := by
    intro x' y' paired
    obtain ⟨_, _, at_x, at_y, _⟩ := sound.cells x' y' paired
    exact ⟨Heap.ne_of_fresh at_x fresh_left, Heap.ne_of_fresh at_y fresh_right⟩
  refine ⟨left_null, right_null, ?_, ?_⟩
  · rintro x' y' (paired | ⟨rfl, rfl⟩)
    · obtain ⟨c', d', at_x, at_y, alike'⟩ := sound.cells x' y' paired
      exact ⟨c', d', Heap.put_fresh fresh_left at_x c, Heap.put_fresh fresh_right at_y d,
        alike'.leads leads⟩
    · exact ⟨c, d, Heap.put_self .., Heap.put_self .., alike.leads leads⟩
  · rintro x₁ y₁ x₂ y₂ (first | ⟨rfl, rfl⟩) (second | ⟨rfl, rfl⟩)
    · exact sound.one _ _ _ _ first second
    · exact iff_of_false (old first).1 (old first).2
    · exact iff_of_false (old second).1.symm (old second).2.symm
    · exact iff_of_true rfl rfl

theorem Sound.put (sound : M.Sound) (paired : M.pairs x y) (at_x : M.left x = some c)
    (at_y : M.right y = some d) (left : c.Becomes c') (right : d.Becomes d')
    (alike : M.Alike c' d') : (M.put x y c' d').Sound := by
  have leads := leads_put at_x at_y left right
  obtain ⟨some_x, some_y⟩ := sound.ne_null paired
  refine ⟨?_, ?_, ?_, sound.one⟩
  · exact (Heap.put_other some_x.symm).trans sound.left_null
  · exact (Heap.put_other some_y.symm).trans sound.right_null
  · intro x' y' paired'
    -- The pair itself is the only place where either heap changes.
    have same := sound.one x' y' x y paired' paired
    by_cases here : x' = x
    · obtain rfl := here
      obtain rfl := same.mp rfl
      exact ⟨c', d', Heap.put_self .., Heap.put_self .., alike.leads leads⟩
    · obtain ⟨e, f, at_x', at_y', alike'⟩ := sound.cells x' y' paired'
      exact ⟨e, f, (Heap.put_other here).trans at_x',
        (Heap.put_other (mt same.mpr here)).trans at_y', alike'.leads leads⟩

/-- Two handles: the same immediate, both the empty slot, or of paired cells. -/
inductive Same (M : Mirror) : Handle → Handle → Prop
  | immediate (v : Int64) : Same M (.immediate v) (.immediate v)
  | vacant : Same M .none .none
  | cell {g h : Handle} {x y : Addr} (paired : M.pairs x y) (left : g = M.left.handleAt x)
      (right : h = M.right.handleAt y) : Same M g h

variable {g h g' h' : Handle}

/-- Two handles of cells, and the cells. -/
theorem Sound.handles (sound : M.Sound) (paired : M.pairs x y) :
    ∃ c d, M.left x = some c ∧ M.right y = some d ∧ M.Alike c d ∧
      M.left.handleAt x = .stored ⟨c.kind, c.size, x⟩ ∧
      M.right.handleAt y = .stored ⟨c.kind, c.size, y⟩ := by
  obtain ⟨c, d, at_x, at_y, alike⟩ := sound.cells x y paired
  refine ⟨c, d, at_x, at_y, alike, Heap.handleAt_of_some at_x, ?_⟩
  rw [Heap.handleAt_of_some at_y, alike.kind, alike.size]

theorem Same.leads (same : M.Same g h) (leads : M.Leads N) (sound : M.Sound) : N.Same g h := by
  cases same with
  | immediate v => exact .immediate v
  | vacant => exact .vacant
  | cell paired left right =>
    obtain ⟨c, d, at_x, at_y, _⟩ := sound.cells _ _ paired
    exact .cell (leads.pairs _ _ paired) (left.trans (leads.left.handleAt at_x).symm)
      (right.trans (leads.right.handleAt at_y).symm)

theorem Same.kind (same : M.Same g h) (sound : M.Sound) : g.kind = h.kind := by
  cases same with
  | immediate v => rfl
  | vacant => rfl
  | cell paired left right =>
    obtain ⟨c, d, _, _, _, at_left, at_right⟩ := sound.handles paired
    rw [left, right, at_left, at_right]
    rfl

theorem Same.link (same : M.Same g h) (sound : M.Sound) : M.Link g.addr h.addr := by
  cases same with
  | immediate v => exact .inl ⟨rfl, rfl⟩
  | vacant => exact .inl ⟨rfl, rfl⟩
  | cell paired left right =>
    obtain ⟨c, d, _, _, _, at_left, at_right⟩ := sound.handles paired
    rw [left, right, at_left, at_right]
    exact .inr paired

/-- Handles that are not immediates are told apart by their addresses. -/
theorem Same.stored (same : M.Same g h) (sound : M.Sound) :
    (∃ v, g = .immediate v ∧ h = .immediate v) ∨
      (g = M.left.handleAt g.addr ∧ h = M.right.handleAt h.addr ∧
        (∀ v, g ≠ .immediate v) ∧ ∀ v, h ≠ .immediate v) := by
  cases same with
  | immediate v => exact .inl ⟨v, rfl, rfl⟩
  | vacant =>
    exact .inr ⟨(Heap.handleAt_of_none sound.left_null).symm,
      (Heap.handleAt_of_none sound.right_null).symm, nofun, nofun⟩
  | cell paired left right =>
    obtain ⟨c, d, _, _, _, at_left, at_right⟩ := sound.handles paired
    rw [at_left] at left
    rw [at_right] at right
    subst left
    subst right
    exact .inr ⟨at_left.symm, at_right.symm, nofun, nofun⟩

/-- Handles are equal on both sides or on neither. -/
theorem Same.eq_iff (first : M.Same g h) (second : M.Same g' h') (sound : M.Sound) :
    g = g' ↔ h = h' := by
  rcases first.stored sound with ⟨v, rfl, rfl⟩ | ⟨left, right, no_left, no_right⟩
  · rcases second.stored sound with ⟨w, rfl, rfl⟩ | ⟨_, _, no_left, no_right⟩
    · exact Iff.rfl
    · exact iff_of_false (fun eq => no_left v eq.symm) (fun eq => no_right v eq.symm)
  · rcases second.stored sound with ⟨w, rfl, rfl⟩ | ⟨left', right', _, _⟩
    · exact iff_of_false (no_left w) (no_right w)
    · have same := (first.link sound).eq_iff (second.link sound) sound
      constructor
      · intro eq
        rw [right, right', same.mp (congrArg Handle.addr eq)]
      · intro eq
        rw [left, left', same.mpr (congrArg Handle.addr eq)]

end Mirror
end ValueArena
