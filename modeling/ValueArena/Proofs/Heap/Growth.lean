import ValueArena.Proofs.Heap.Reading

/-!
How a heap changes in the long run. Cells come and stay; a cell keeps its kind and size, and only
numbers, lists and items are ever overwritten. A handle that names a cell therefore names it for
good.
-/
namespace ValueArena

/-- The kinds whose cells are overwritten in place. -/
def Kind.isRewritten : Kind → Bool
  | .integer | .long | .double | .list | .listItem => true
  | _ => false

structure Cell.Becomes (c d : Cell) : Prop where
  kind : d.kind = c.kind
  size : d.size = c.size
  kept : c.kind.isRewritten = false → d = c

theorem Cell.Becomes.refl (c : Cell) : c.Becomes c := ⟨rfl, rfl, fun _ => rfl⟩

theorem Cell.Becomes.trans {c d e : Cell} (first : c.Becomes d) (second : d.Becomes e) :
    c.Becomes e := by
  refine ⟨second.kind.trans first.kind, second.size.trans first.size, ?_⟩
  intro fixed
  rw [second.kept (by rw [first.kind, fixed]), first.kept fixed]

theorem Cell.becomes_of_rewritten {c d : Cell} (kind : d.kind = c.kind)
    (rewritten : c.kind.isRewritten = true) : c.Becomes d := by
  have fixed : c.kind ≠ .string := by
    intro eq
    rw [eq] at rewritten
    cases rewritten
  refine ⟨kind, ?_, ?_⟩
  · rw [size, size, payload_length fixed, payload_length (by rw [kind]; exact fixed), kind]
  · intro kept
    rw [rewritten] at kept
    cases kept

theorem Handle.require_error {h : Handle} {kind : Kind} {e : MemoryError}
    (refused : h.require kind = .error e) : e = .kindMismatch kind h.kind := by
  unfold Handle.require at refused
  split at refused
  · split at refused
    · cases refused
    · exact (Except.error.inj refused).symm
  · exact (Except.error.inj refused).symm

theorem Handle.require_ok {h : Handle} {kind : Kind} {d : Descriptor}
    (required : h.require kind = .ok d) : h = .stored d ∧ d.kind = kind ∧ d.addr ≠ .null := by
  cases h with
  | immediate v => cases required
  | stored d' =>
    unfold Handle.require Handle.descriptor? at required
    by_cases null : d'.addr.isNull
    · simp [null] at required
    · by_cases same : d'.kind = kind
      · simp only [null, same, if_true, if_false, Bool.false_eq_true] at required
        cases required
        exact ⟨rfl, same, fun eq => null (Addr.isNull_iff.mpr eq)⟩
      · simp [null, same] at required

/-- A handle of stored memory passes for its own kind. -/
theorem Handle.require_stored {d : Descriptor} (stored : d.addr ≠ .null) :
    (Handle.stored d).require d.kind = .ok d := by
  simp [require, descriptor?, Addr.isNull_eq_false stored]

namespace Heap

def Grows (heap heap' : Heap) : Prop :=
  ∀ addr c, heap addr = some c → ∃ d, heap' addr = some d ∧ c.Becomes d

/-- Where a list starts. -/
def IsList (heap : Heap) (addr : Addr) : Prop :=
  ∃ first last count, heap addr = some (.list first last count)

/-- What an item holds: nothing, or a value of some kind. -/
def IsContent (heap : Heap) (addr : Addr) : Prop :=
  addr = .null ∨ ∃ c, heap addr = some c ∧ c.kind ≠ .none

/-- What the operations of an arena hand out: immediates, the empty slot and handles of cells. -/
def Issued (heap : Heap) : Handle → Prop
  | .immediate _ => True
  | .stored d => heap.handleAt d.addr = .stored d

variable {heap heap' heap'' : Heap} {addr : Addr} {c d : Cell}

theorem Grows.refl (heap : Heap) : heap.Grows heap :=
  fun _ c found => ⟨c, found, .refl c⟩

theorem Grows.trans (first : heap.Grows heap') (second : heap'.Grows heap'') :
    heap.Grows heap'' := by
  intro addr c found
  obtain ⟨d, found', becomes⟩ := first addr c found
  obtain ⟨e, found'', becomes'⟩ := second addr d found'
  exact ⟨e, found'', becomes.trans becomes'⟩

/-- What is not there later was not there before. -/
theorem Grows.fresh (grows : heap.Grows heap') (fresh : heap' addr = none) : heap addr = none := by
  cases found : heap addr with
  | none => rfl
  | some c =>
    obtain ⟨d, after, _⟩ := grows addr c found
    exact nomatch fresh.symm.trans after

theorem grows_put_fresh (fresh : heap addr = none) (c : Cell) : heap.Grows (heap.put addr c) := by
  intro x d found
  exact ⟨d, put_fresh fresh found c, .refl d⟩

theorem grows_put (found : heap addr = some c) (becomes : c.Becomes d) :
    heap.Grows (heap.put addr d) := by
  intro x e found_x
  by_cases same : x = addr
  · subst same
    rw [found] at found_x
    cases found_x
    exact ⟨d, put_self .., becomes⟩
  · exact ⟨e, by rw [put_other same, found_x], .refl e⟩

theorem Grows.kept (grows : heap.Grows heap') (found : heap addr = some c)
    (fixed : c.kind.isRewritten = false) : heap' addr = some c := by
  obtain ⟨d, found', becomes⟩ := grows addr c found
  rw [found', becomes.kept fixed]

theorem not_isList_of_fresh (fresh : heap addr = none) : ¬ heap.IsList addr := by
  rintro ⟨_, _, _, found⟩
  exact nomatch fresh.symm.trans found

theorem isList_of_kind (found : heap addr = some c) (kind : c.kind = .list) : heap.IsList addr := by
  obtain ⟨first, last, count, rfl⟩ := Cell.eq_list_of_kind kind
  exact ⟨first, last, count, found⟩

theorem Grows.isList (grows : heap.Grows heap') (list : heap.IsList addr) : heap'.IsList addr := by
  obtain ⟨first, last, count, found⟩ := list
  obtain ⟨d, found', becomes⟩ := grows addr _ found
  exact isList_of_kind found' becomes.kind

theorem Grows.isContent (grows : heap.Grows heap') (content : heap.IsContent addr) :
    heap'.IsContent addr := by
  rcases content with null | ⟨c, found, kind⟩
  · exact .inl null
  · obtain ⟨d, found', becomes⟩ := grows addr c found
    exact .inr ⟨d, found', by rw [becomes.kind]; exact kind⟩

theorem Grows.handleAt (grows : heap.Grows heap') (found : heap addr = some c) :
    heap'.handleAt addr = heap.handleAt addr := by
  obtain ⟨d, found', becomes⟩ := grows addr c found
  rw [handleAt_of_some found, handleAt_of_some found', becomes.kind, becomes.size]

theorem Grows.eq_handleAt (grows : heap.Grows heap') (null : heap' .null = none) {h : Handle}
    (named : h = heap.handleAt h.addr) : h = heap'.handleAt h.addr := by
  cases found : heap h.addr with
  | none =>
    rw [handleAt_of_none found] at named
    subst named
    exact (handleAt_of_none null).symm
  | some c => exact named.trans (grows.handleAt found).symm

theorem issued_none (null : heap .null = none) : heap.Issued .none := handleAt_of_none null

theorem issued_handleAt (null : heap .null = none) (addr : Addr) :
    heap.Issued (heap.handleAt addr) := by
  cases found : heap addr with
  | none =>
    rw [handleAt_of_none found]
    exact issued_none null
  | some c =>
    rw [handleAt_of_some found]
    exact handleAt_of_some found

/-- The address decides which value an issued handle names. -/
theorem Issued.eq_of_addr {d e : Descriptor} (left : heap.Issued (.stored d))
    (right : heap.Issued (.stored e)) (same : d.addr = e.addr) : d = e := by
  have at_d : heap.handleAt d.addr = .stored d := left
  have at_e : heap.handleAt e.addr = .stored e := right
  rw [same, at_e] at at_d
  exact (Handle.stored.inj at_d).symm

/-- An issued handle whose address has a cell is the handle of that cell. -/
theorem Issued.eq_handleAt {h : Handle} {c : Cell} (issued : heap.Issued h)
    (null : heap .null = none) (found : heap h.addr = some c) : h = heap.handleAt h.addr := by
  cases h with
  | immediate v => exact nomatch null.symm.trans found
  | stored d => exact issued.symm

/-- An issued handle that is neither immediate nor the empty slot names a cell. -/
theorem Issued.cell {d : Descriptor} (issued : heap.Issued (.stored d)) (stored : d.addr ≠ .null) :
    ∃ c, heap d.addr = some c ∧ d = ⟨c.kind, c.size, d.addr⟩ := by
  have named : heap.handleAt d.addr = .stored d := issued
  cases found : heap d.addr with
  | none =>
    rw [handleAt_of_none found] at named
    cases named
    exact absurd rfl stored
  | some c =>
    rw [handleAt_of_some found] at named
    exact ⟨c, rfl, (Handle.stored.inj named).symm⟩

/-- What an issued handle can be. -/
theorem Issued.shape {h : Handle} (issued : heap.Issued h) :
    (∃ v, h = .immediate v) ∨ h = .none ∨
      ∃ addr c, heap addr = some c ∧ h = heap.handleAt addr := by
  cases h with
  | immediate v => exact .inl ⟨v, rfl⟩
  | stored d =>
    have named : heap.handleAt d.addr = .stored d := issued
    cases found : heap d.addr with
    | none => exact .inr (.inl (named.symm.trans (handleAt_of_none found)))
    | some c => exact .inr (.inr ⟨d.addr, c, found, named.symm⟩)

/-- An issued handle of any kind but that of the empty slot names a cell. -/
theorem Issued.cell_of_kind {d : Descriptor} (issued : heap.Issued (.stored d))
    (null : heap .null = none) (memory : d.kind ≠ .none) :
    ∃ c, heap d.addr = some c ∧ d = ⟨c.kind, c.size, d.addr⟩ := by
  apply issued.cell
  intro same
  have named : heap.handleAt d.addr = .stored d := issued
  rw [same, handleAt_of_none null] at named
  cases named
  exact memory rfl

/-- A handle of a kind that is overwritten passes for its kind. -/
theorem Issued.rewritten {h : Handle} (issued : heap.Issued h) (null : heap .null = none)
    (rewritten : h.kind.isRewritten = true) :
    ∃ d c, h = .stored d ∧ heap d.addr = some c ∧ d = ⟨c.kind, c.size, d.addr⟩ ∧
      h.require h.kind = .ok d := by
  cases h with
  | immediate v => cases rewritten
  | stored d =>
    have memory : d.kind ≠ .none := by
      intro none
      rw [Handle.kind, none] at rewritten
      cases rewritten
    obtain ⟨c, found, named⟩ := issued.cell_of_kind null memory
    have stored : d.addr ≠ .null := by
      intro same
      rw [same, null] at found
      cases found
    exact ⟨d, c, rfl, found, named, Handle.require_stored stored⟩

theorem Issued.grows {h : Handle} (issued : heap.Issued h) (grows : heap.Grows heap')
    (null : heap' .null = none) : heap'.Issued h := by
  cases h with
  | immediate v => trivial
  | stored d =>
    have named : heap.handleAt d.addr = .stored d := issued
    cases found : heap d.addr with
    | none =>
      rw [handleAt_of_none found] at named
      cases named
      exact issued_none null
    | some c => exact (grows.handleAt found).trans named

/-- A handle that passes for a kind names a cell of that kind. -/
theorem Issued.require {h : Handle} {kind : Kind} {d : Descriptor} (issued : heap.Issued h)
    (required : h.require kind = .ok d) :
    ∃ c, heap d.addr = some c ∧ c.kind = kind ∧ h = .stored d ∧ d = ⟨c.kind, c.size, d.addr⟩ := by
  obtain ⟨rfl, rfl, other⟩ := Handle.require_ok required
  obtain ⟨c, found, named⟩ := issued.cell other
  exact ⟨c, found, by rw [named], rfl, named⟩

theorem require_handleAt (stored : addr ≠ .null) (found : heap addr = some c) :
    (heap.handleAt addr).require c.kind = .ok ⟨c.kind, c.size, addr⟩ := by
  rw [handleAt_of_some found]
  exact Handle.require_stored stored

end Heap
end ValueArena
