import ValueArena.Proofs.View.Object

/-!
Appends and new keys, all or nothing. The check before them passes exactly if what they ask for is
then given out in order, and after it nothing fails; a refusal comes before the first write.
-/
namespace ValueArena

namespace Arena

variable {a : Arena} {p : Picture} {content : Handle} {length : Nat}

/-- With pages left, a check of requests of an arena with a value is exact. -/
theorem Shows.wouldFit_iff (shows : a.Shows p) {x : Addr} {c : Cell} (found : p.heap x = some c)
    {lens : List Nat} (bounds : ∀ len ∈ lens, 0 < len ∧ len ≤ 0xFFFFFFFF)
    (pages : a.store.HasPages lens) :
    a.store.wouldFit lens = true ↔ (a.store.room.reserveAll lens).isSome = true := by
  have standard : a.store.room.config.pageSize ≤ 0xFFFFFFFF := (shows.holds.lies found).pageSize_le
  have ready : 0 < a.store.room.pages ∨ lens.head? ≠ some 0 := by
    refine .inr fun zero => ?_
    obtain ⟨positive, _⟩ := bounds 0 (List.mem_of_head? zero)
    cases positive
  have room : a.store.room.HasPages lens := pages
  have numbers := room.not_runsOut a.store.room_remaining ready
  refine PageStore.Room.wouldFit_iff_reserveAll a.store.room_remaining ready ?_ numbers
  intro len member
  obtain ⟨_, small⟩ := bounds len member
  omega

/-- An item that is given out is not lacked. -/
theorem not_lacksRoom (short : length < 0xFFFFFFFF)
    (served : (a.store.room.reserveAll (appendLengths content)).isSome = true)
    (fits : a.store.wouldFit (appendLengths content) = true) : ¬ a.LacksRoom content length := by
  intro lacks
  rcases lacks with long | unfit | refused
  · omega
  · rw [wouldFit_appendLengths, fits] at unfit
    cases unfit
  · rw [refused] at served
    cases served

end Arena

namespace ListView

variable {a : Arena} {p : Picture} {v : ListView} {content : Handle}

/-- A count that has not reached its end leaves room for an entry. -/
theorem length_lt_of_count_ne (shows : a.Shows p) (sees : p.Sees v)
    (short : v.count a ≠ .ok 0xFFFFFFFF) : (p.lists v.header.addr).length < 0xFFFFFFFF := by
  obtain ⟨first, last, count, at_list⟩ := sees.header
  have counted : v.count a = .ok count := Arena.load_listCount (shows.holds.lies at_list)
  obtain ⟨_, _, length⟩ := shows.formed.header _ first last count at_list
  have bound := count.toNat_lt
  rw [← length]
  apply Classical.byContradiction
  intro full
  have last_count : count = 0xFFFFFFFF :=
    UInt32.toNat_inj.mp (show count.toNat = 0xFFFFFFFF by omega)
  rw [counted, last_count] at short
  exact short rfl

/-- An append does nothing if what it asks for is not given out, and is complete if it is. -/
theorem append_exact (shows : a.Shows p) (sees : p.Sees v) (issued : p.heap.Issued content)
    (short : (p.lists v.header.addr).length < 0xFFFFFFFF)
    (pages : a.store.HasPages (Arena.appendLengths content)) :
    a.store.room.reserveAll (Arena.appendLengths content) = none ∧
      (∃ n m, append content (v, a) = (.error (.allocationFailed n m), (v, a))) ∨
    ∃ item kept b q u, append content (v, a) = (.ok item, (u, b)) ∧
      a.Appended p v.header.addr content item kept b q ∧ u.header = v.header := by
  obtain ⟨first, last, count, at_list⟩ := sees.header
  have counted : a.listCount v.header = .ok count := Arena.load_listCount (shows.holds.lies at_list)
  obtain ⟨_, _, length⟩ := shows.formed.header _ first last count at_list
  have item : Arena.itemLength = 17 := rfl
  have bounds : ∀ len ∈ Arena.appendLengths content, 0 < len ∧ len ≤ 0xFFFFFFFF := by
    cases content <;> simp [Arena.appendLengths, Arena.promotion, item]
  have exact_check := shows.wouldFit_iff at_list bounds pages
  cases served : a.store.room.reserveAll (Arena.appendLengths content) with
  | none =>
    have unfit : a.store.wouldFit [Arena.promotionSize content, Arena.itemLength] = false := by
      rw [Arena.wouldFit_appendLengths, ← Bool.not_eq_true, exact_check, served]
      simp
    have refused := Arena.appendItem_refused counted (by omega) unfit
    exact .inl ⟨rfl, _, _, append_failed refused⟩
  | some room =>
    rw [served] at exact_check
    rcases append_cases shows sees issued with
      ⟨_, _, _, _, _, _, _, without⟩ | ⟨item, kept, b, q, u, appended, appends, _, header, _⟩
    · exact absurd without.lacks
        (Arena.not_lacksRoom short (by rw [served]; rfl) (exact_check.mpr rfl))
    · exact .inr ⟨item, kept, b, q, u, appended, appends, header⟩

/-- A stored value is appended wherever there is room for its item. -/
theorem append_stored (shows : a.Shows p) (sees : p.Sees v) {d : Descriptor}
    (issued : p.heap.Issued (.stored d)) (short : (p.lists v.header.addr).length < 0xFFFFFFFF)
    {room : PageStore.Room} (served : a.store.room.reserve Arena.itemLength = some room) :
    ∃ item kept b q u, append (.stored d) (v, a) = (.ok item, (u, b)) ∧
      a.Appended p v.header.addr (.stored d) item kept b q ∧ q.Sees u ∧ b.store.room = room ∧
      (v.Current a p → u = q.view v.header) := by
  have lens : Arena.appendLengths (.stored d) = [Arena.itemLength] := rfl
  have fits : a.store.wouldFit [Arena.itemLength] = true :=
    PageStore.Room.wouldFit_cons a.store.room_remaining (.inr (by decide)) served rfl
  rcases append_cases shows sees issued with
    ⟨_, _, _, _, _, _, _, without⟩ | ⟨item, kept, b, q, u, appended, appends, sees_u, _, now⟩
  · refine absurd without.lacks (Arena.not_lacksRoom short ?_ fits)
    rw [lens, PageStore.Room.reserveAll_single, served]
    rfl
  · have same := appends.room
    rw [lens, PageStore.Room.reserveAll_single, served] at same
    exact ⟨item, kept, b, q, u, appended, appends, sees_u, (Option.some.inj same).symm, now⟩

end ListView

namespace ObjectView

variable {a : Arena} {p : Picture} {o : ObjectView} {key : String}

/-- The bytes that a new key asks for, in order: its text, its item and its slot. -/
def keyLengths (key : String) : List Nat :=
  [5 + (Utf8.encode key).length, Arena.itemLength, Arena.itemLength]

/-- A new key that the check refuses changes nothing. -/
theorem addKey_refused (unfit : a.store.wouldFit (keyLengths key) = false) :
    addKey key (o, a) = (.error (.allocationFailed
      (5 + (Utf8.encode key).length + 2 * Arena.itemLength) a.spaceOccupied), (o, a)) := by
  refine Step.bind_error (Step.onSecond_apply ?_)
  rw [keyLengths] at unfit
  simp only [Step.view_apply, unfit, Bool.false_eq_true, if_false]

/-- A name for which everything is given out is added. -/
theorem addName_served (shows : a.Shows p) (sees : p.SeesObject o)
    (fits : a.store.wouldFit (keyLengths key) = true) {room : PageStore.Room}
    (served : a.store.room.reserveAll [5 + (Utf8.encode key).length, Arena.itemLength] = some room)
    (short : (p.lists o.keys.header.addr).length < 0xFFFFFFFF) :
    ∃ name u b q, addName key (o, a) = (.ok name, (u, b)) ∧ NameAdded a p o key u b q ∧
      b.store.room = room := by
  simp only [PageStore.Room.reserveAll, Option.bind_eq_some_iff] at served
  obtain ⟨room₁, text_served, room₂, name_served, last⟩ := served
  obtain rfl := Option.some.inj last
  have checked : (Step.view fun a : Arena =>
      if a.store.wouldFit (keyLengths key) then .ok ()
      else .error (MemoryError.allocationFailed
        (5 + (Utf8.encode key).length + 2 * Arena.itemLength) a.spaceOccupied)) a =
      (.ok (), a) := by
    simp only [Step.view_apply, fits, if_true]
  rw [← string_length] at text_served
  obtain ⟨text, a₁, made, adds, rfl⟩ :=
    Arena.adds_of_served (Arena.createString_cases shows.holds.bounded key) text_served
  have creates := adds.creates shows.holds
  obtain ⟨shows₁, evolves₁⟩ := shows.create creates
  have sees₁ := sees_evolves sees evolves₁ shows.formed shows₁.formed.null
  have issued := creates.issued
  rw [creates.handle] at issued
  obtain ⟨name, _, b, _, u, named, _, _, left, _⟩ := ListView.append_stored shows₁ sees₁.keys issued
    (by rw [evolves₁.lists_eq]; exact short) name_served
  have added : addName key (o, a) = (.ok name, ({ o with keys := u }, b)) := by
    rw [← creates.handle] at named
    apply (Step.bind_ok (Step.onSecond_apply checked)).trans
    apply (Step.bind_ok (Step.onSecond_apply made)).trans
    exact changingKeys_apply named
  rcases addName_cases shows sees key with ⟨_, _, _, _, failed, _⟩ | ⟨_, _, _, q, added', adds⟩
  · cases added.symm.trans failed
  · cases added.symm.trans added'
    exact ⟨name, _, b, q, added, adds, left⟩

/-- A new key for which everything is given out is added. -/
theorem addKey_served (shows : a.Shows p) (sees : p.SeesObject o)
    (fits : a.store.wouldFit (keyLengths key) = true)
    {room : PageStore.Room} (served : a.store.room.reserveAll (keyLengths key) = some room)
    (short_keys : (p.lists o.keys.header.addr).length < 0xFFFFFFFF)
    (short_values : (p.lists o.values.header.addr).length < 0xFFFFFFFF) :
    ∃ item u b, addKey key (o, a) = (.ok item, (u, b)) ∧ b.store.room = room := by
  have lengths : keyLengths key =
      [5 + (Utf8.encode key).length, Arena.itemLength] ++ [Arena.itemLength] := rfl
  rw [lengths, PageStore.Room.reserveAll_append, Option.bind_eq_some_iff] at served
  obtain ⟨room', name_served, slot_served⟩ := served
  rw [PageStore.Room.reserveAll_single] at slot_served
  obtain ⟨name, u, b, q, named, adds, rfl⟩ :=
    addName_served shows sees fits name_served short_keys
  obtain ⟨item, _, c, _, w, slotted, _, _, left, _⟩ :=
    ListView.append_stored adds.shows adds.sees.values (Heap.issued_none adds.shows.formed.null)
      (by rw [adds.values, adds.slots_eq shows sees]; exact short_values) slot_served
  refine ⟨item, { u with values := w }, c, ?_, left⟩
  rw [addKey_eq]
  exact (Step.bind_ok named).trans (changingValues_apply slotted)

/-- A key is not added if what it asks for is not given out, and is added with its slot if it is. -/
theorem addKey_exact (shows : a.Shows p) (sees : p.SeesObject o)
    (small : 5 + (Utf8.encode key).length ≤ 0xFFFFFFFF)
    (short_keys : (p.lists o.keys.header.addr).length < 0xFFFFFFFF)
    (short_values : (p.lists o.values.header.addr).length < 0xFFFFFFFF)
    (pages : a.store.HasPages (keyLengths key)) :
    a.store.room.reserveAll (keyLengths key) = none ∧
      (∃ n m, addKey key (o, a) = (.error (.allocationFailed n m), (o, a))) ∨
    ∃ item u b q, addKey key (o, a) = (.ok item, (u, b)) ∧ KeyAdded a p o key item u b q ∧
      a.store.room.reserveAll (keyLengths key) = some b.store.room := by
  have item : Arena.itemLength = 17 := rfl
  have bounds : ∀ len ∈ keyLengths key, 0 < len ∧ len ≤ 0xFFFFFFFF := by
    intro len member
    simp only [keyLengths, List.mem_cons, List.not_mem_nil, or_false] at member
    omega
  have exact_check := shows.wouldFit_iff sees.cell bounds pages
  cases served : a.store.room.reserveAll (keyLengths key) with
  | none =>
    have unfit : a.store.wouldFit (keyLengths key) = false := by
      rw [← Bool.not_eq_true, exact_check, served]
      simp
    exact .inl ⟨rfl, _, _, addKey_refused unfit⟩
  | some room =>
    obtain ⟨item, u, b, added, left⟩ := addKey_served shows sees
      (exact_check.mpr (by rw [served]; rfl)) served short_keys short_values
    rcases addKey_cases shows sees key with
      ⟨_, _, _, _, _, failed, _⟩ | ⟨item', u', b', q, added', adds⟩
    · cases added.symm.trans failed
    · cases added.symm.trans added'
      exact .inr ⟨item, u, b, q, added, adds, by rw [left]⟩

end ObjectView
end ValueArena
