import ValueArena.Proofs.Heap.Draft
import ValueArena.Proofs.Heap.Reading

/-!
Creating values. Each operation that creates one either fails and leaves the arena as it was, or
writes the cell of one value, whole, into bytes given out for it, and returns the handle of that
cell. The heap of an arena that has one gains the cell. Only an object takes three creations, of
which a failure undoes none.
-/
namespace ValueArena.Arena

/-- `b` is `a` with one value more, whose cell lies in bytes given out for it. -/
structure Adds (a : Arena) (c : Cell) (h : Handle) (b : Arena) : Prop where
  handle : h = .stored ⟨c.kind, c.size, h.addr⟩
  drafts : a.store.Drafts b.store h.addr c.bytes 0
  generation : b.generation = a.generation
  place : (a.store.reserve c.bytes.length).1 = .ok h.addr
  room : a.store.room.reserve c.bytes.length = some b.store.room

/-- `b` is `a` with one cell more, which `h` names. -/
structure Creates (a : Arena) (heap : Heap) (c : Cell) (h : Handle) (b : Arena) : Prop where
  fresh : heap h.addr = none
  handle : h = .stored ⟨c.kind, c.size, h.addr⟩
  holds : b.store.Holds (heap.put h.addr c)
  generation : b.generation = a.generation
  room : a.store.room.reserve c.bytes.length = some b.store.room

/-- `b` is `a` with bytes given out for a cell at `addr`: some are written, `left` are not. -/
structure Writes (a : Arena) (addr : Addr) (written : List UInt8) (left : Nat) (b : Arena) :
    Prop where
  drafts : a.store.Drafts b.store addr written left
  generation : b.generation = a.generation
  place : (a.store.reserve (written.length + left)).1 = .ok addr
  room : a.store.room.reserve (written.length + left) = some b.store.room

theorem onStore_apply {x : Step MemoryError PageStore α} {a : Arena} {s : PageStore}
    {result : Except MemoryError α} (ran : x a.store = (result, s)) :
    onStore x a = (result, { a with store := s }) := by
  simp only [onStore, Step.within, ran]

theorem write_apply [FixedWidth α] {a : Arena} {addr : Addr} {v : α} {s : PageStore}
    (stored : a.store.store addr v = .ok s) :
    write addr v a = (.ok (), { a with store := s }) :=
  onStore_apply (by simp only [Step.update, stored])

theorem writeField_apply [FixedWidth α] {a : Arena} {addr : Addr} {f : Field} {v : α}
    {s : PageStore} (stored : a.store.storeField addr f v = .ok s) :
    writeField addr f v a = (.ok (), { a with store := s }) :=
  onStore_apply (by simp only [Step.update, stored])

/-- A write that fails changes nothing. -/
theorem writeField_error [FixedWidth α] {a : Arena} {addr : Addr} {f : Field} {v : α}
    {e : MemoryError} (refused : a.store.storeField addr f v = .error e) :
    writeField addr f v a = (.error e, a) :=
  onStore_apply (by simp only [Step.update, refused])

variable {a b : Arena} {heap : Heap} {addr : Addr} {written : List UInt8} {left : Nat} {c : Cell}
  {h : Handle}

theorem Adds.creates (adds : a.Adds c h b) (holds : a.store.Holds heap) :
    Creates a heap c h b := by
  obtain ⟨fresh, holds_b⟩ := adds.drafts.holds holds
  exact ⟨fresh, adds.handle, holds_b, adds.generation, adds.room⟩

/-- A creation whose request is served succeeds. -/
theorem adds_of_served {x : ArenaStep Handle}
    (outcome : (∃ n m, x a = (.error (.allocationFailed n m), a) ∧
      a.store.room.reserve c.bytes.length = none) ∨ ∃ h b, x a = (.ok h, b) ∧ a.Adds c h b)
    {room : PageStore.Room} (served : a.store.room.reserve c.bytes.length = some room) :
    ∃ h b, x a = (.ok h, b) ∧ a.Adds c h b ∧ b.store.room = room := by
  rcases outcome with ⟨_, _, _, full⟩ | ⟨h, b, made, adds⟩
  · rw [served] at full
    cases full
  · exact ⟨h, b, made, adds, Option.some.inj (adds.room.symm.trans served)⟩

theorem Writes.advance (writes : a.Writes addr written left b) {s : PageStore} {bs : List UInt8}
    {less : Nat} (drafts : a.store.Drafts s addr (written ++ bs) less)
    (same : s.room = b.store.room) (total : bs.length + less = left) :
    a.Writes addr (written ++ bs) less { b with store := s } := by
  have whole : (written ++ bs).length + less = written.length + left := by
    rw [List.length_append, Nat.add_assoc, total]
  refine ⟨drafts, writes.generation, ?_, ?_⟩
  · rw [whole]
    exact writes.place
  · rw [whole, same]
    exact writes.room

theorem Writes.storeField (writes : a.Writes addr written left b) [FixedWidth α] (f : Field) (v : α)
    (next : f.distance.toNat = written.length) (enough : FixedWidth.width α ≤ left) :
    ∃ s, b.store.storeField addr f v = .ok s ∧
      a.Writes addr (written ++ FixedWidth.encode v) (left - FixedWidth.width α)
        { b with store := s } := by
  obtain ⟨s, stored, same, drafts⟩ := writes.drafts.store_field f v next enough
  exact ⟨s, stored, writes.advance drafts same (by rw [FixedWidth.length_encode]; omega)⟩

theorem Writes.writeField (writes : a.Writes addr written left b) [FixedWidth α] (f : Field) (v : α)
    (next : f.distance.toNat = written.length) (enough : FixedWidth.width α ≤ left) :
    ∃ c, Arena.writeField addr f v b = (.ok (), c) ∧
      a.Writes addr (written ++ FixedWidth.encode v) (left - FixedWidth.width α) c := by
  obtain ⟨s, stored, writes⟩ := writes.storeField f v next enough
  exact ⟨_, writeField_apply stored, writes⟩

theorem Writes.adds {size : UInt32} (writes : a.Writes addr c.bytes 0 b) (fits : size = c.size) :
    a.Adds c (.stored ⟨c.kind, size, addr⟩) b := by
  subst fits
  exact ⟨rfl, writes.drafts, writes.generation, writes.place, writes.room⟩

/-- Bytes for a cell are given out and its tag is written, or nothing happens. -/
theorem allocate_cases (bounded : a.store.Bounded) (kind : Kind) (size : UInt32) :
    (∃ n m, allocate kind size a = (.error (.allocationFailed n m), a) ∧
      a.store.room.reserve (1 + size.toNat) = none) ∨
    ∃ addr b, allocate kind size a = (.ok ⟨kind, size, addr⟩, b) ∧
      a.Writes addr [kind.tag] size.toNat b := by
  rcases PageStore.reserve_cases bounded (1 + size.toNat) with
    ⟨n, m, refused, full⟩ | ⟨addr, s, reserved, room, gives⟩
  · have failed := onStore_apply (x := fun s => s.reserve (1 + size.toNat)) refused
    exact .inl ⟨n, m, Step.bind_error failed, full⟩
  · obtain ⟨t, tagged, same, drafts⟩ := gives.drafts.store_tag kind (by omega)
    rw [Nat.add_sub_cancel_left] at drafts
    have given := onStore_apply (x := fun s => s.reserve (1 + size.toNat)) reserved
    refine .inr ⟨addr, { a with store := t }, ?_, drafts, rfl, congrArg Prod.fst reserved, ?_⟩
    · apply (Step.bind_ok given).trans
      rw [Step.bind_ok (write_apply (a := { a with store := s }) tagged)]
      rfl
    · rw [same]
      exact room

theorem size_of_fixed (fixed : c.kind ≠ .string) : c.kind.fixedSize = c.size := by
  rw [Cell.size, Cell.payload_length fixed, UInt32.ofNat_toNat]

theorem length_of_fixed (fixed : c.kind ≠ .string) :
    1 + c.kind.fixedSize.toNat = c.bytes.length := by
  rw [Cell.bytes_length, Cell.payload_length fixed, Nat.add_comm]

/-- A cell of two fields is written whole once its bytes are given out. -/
theorem pair_cases (bounded : a.store.Bounded) [FixedWidth α] [FixedWidth β] (c : Cell)
    (f g : Field) (u : α) (v : β) (fixed : c.kind ≠ .string)
    (content : c.payload = FixedWidth.encode u ++ FixedWidth.encode v)
    (first : f.distance.toNat = 1) (second : g.distance.toNat = 1 + FixedWidth.width α) :
    (∃ n m, allocate c.kind c.kind.fixedSize a = (.error (.allocationFailed n m), a) ∧
      a.store.room.reserve c.bytes.length = none) ∨
    ∃ d a₁ a₂ b, allocate c.kind c.kind.fixedSize a = (.ok d, a₁) ∧
      writeField d.addr f u a₁ = (.ok (), a₂) ∧ writeField d.addr g v a₂ = (.ok (), b) ∧
      a.Adds c (.stored d) b := by
  have length := Cell.payload_length fixed
  rw [content, List.length_append, FixedWidth.length_encode, FixedWidth.length_encode] at length
  rcases allocate_cases bounded c.kind c.kind.fixedSize with
    ⟨n, m, failed, full⟩ | ⟨addr, a₁, allotted, writes⟩
  · exact .inl ⟨n, m, failed, length_of_fixed fixed ▸ full⟩
  · obtain ⟨a₂, wrote_f, writes⟩ := writes.writeField f u first (by omega)
    obtain ⟨b, wrote_g, writes⟩ := writes.writeField g v
      (by simp [second, FixedWidth.length_encode, Nat.add_comm]) (by omega)
    refine .inr ⟨_, a₁, a₂, b, allotted, wrote_f, wrote_g, ?_⟩
    have bytes : [c.kind.tag] ++ FixedWidth.encode u ++ FixedWidth.encode v = c.bytes := by
      simp [Cell.bytes, content]
    rw [bytes, ← length, Nat.add_sub_cancel_left, Nat.sub_self] at writes
    exact writes.adds (size_of_fixed fixed)

/-- A new value of two addresses. -/
def createPair (k : Kind) (f g : Field) (u v : Addr) : ArenaStep Descriptor := do
  let d ← allocate k k.fixedSize
  writeField d.addr f u
  writeField d.addr g v
  pure d

theorem createPair_cases (bounded : a.store.Bounded) (c : Cell) (f g : Field) (u v : Addr)
    (fixed : c.kind ≠ .string) (content : c.payload = FixedWidth.encode u ++ FixedWidth.encode v)
    (first : f.distance = 1) (second : g.distance = 9) :
    (∃ n m, createPair c.kind f g u v a = (.error (.allocationFailed n m), a) ∧
      a.store.room.reserve c.bytes.length = none) ∨
      ∃ d b, createPair c.kind f g u v a = (.ok d, b) ∧ a.Adds c (.stored d) b := by
  rcases pair_cases bounded c f g u v fixed content (by rw [first]; rfl) (by rw [second]; rfl) with
    ⟨n, m, failed, full⟩ | ⟨d, a₁, a₂, b, allotted, wrote, wrote', adds⟩
  · exact .inl ⟨n, m, Step.bind_error failed, full⟩
  · refine .inr ⟨d, b, ?_, adds⟩
    apply (Step.bind_ok allotted).trans
    rw [Step.bind_ok wrote, Step.bind_ok wrote']
    rfl

theorem createScalar_cases (bounded : a.store.Bounded) [FixedWidth α] (c : Cell) (v : α)
    (fixed : c.kind ≠ .string) (content : c.payload = FixedWidth.encode v) :
    (∃ n m, createScalar c.kind v a = (.error (.allocationFailed n m), a) ∧
      a.store.room.reserve c.bytes.length = none) ∨
      ∃ h b, createScalar c.kind v a = (.ok h, b) ∧ a.Adds c h b := by
  have length := Cell.payload_length fixed
  rw [content, FixedWidth.length_encode] at length
  rcases allocate_cases bounded c.kind c.kind.fixedSize with
    ⟨n, m, failed, full⟩ | ⟨addr, a₁, allotted, writes⟩
  · exact .inl ⟨n, m, by rw [createScalar, Step.bind_error failed], length_of_fixed fixed ▸ full⟩
  · obtain ⟨p, made, _⟩ := writes.drafts.field (f := .payload) rfl
    obtain ⟨s, stored, writes⟩ := writes.storeField .payload v rfl (by omega)
    have bytes : [c.kind.tag] ++ FixedWidth.encode v = c.bytes := by simp [Cell.bytes, content]
    have put : a₁.store.store (Descriptor.payload ⟨c.kind, c.kind.fixedSize, addr⟩) v = .ok s := by
      simp only [PageStore.storeField, made, bind, Except.bind] at stored
      rw [Field.payload_of made, stored]
    rw [bytes, length, Nat.sub_self] at writes
    refine .inr ⟨_, _, ?_, writes.adds (size_of_fixed fixed)⟩
    rw [createScalar, Step.bind_ok allotted, Step.bind_ok (write_apply put)]
    rfl

theorem createFunction_cases (bounded : a.store.Bounded) (v : FunctionRef) :
    (∃ n m, createFunction v a = (.error (.allocationFailed n m), a) ∧
      a.store.room.reserve (Cell.plain (.function v)).bytes.length = none) ∨
      ∃ h b, createFunction v a = (.ok h, b) ∧ a.Adds (.plain (.function v)) h b := by
  rcases pair_cases bounded (.plain (.function v)) .functionLibrary .functionIndex v.library v.index
      (by simp [Cell.kind, Content.kind]) rfl rfl rfl with
    ⟨n, m, failed, full⟩ | ⟨d, a₁, a₂, b, allotted, first, second, adds⟩
  · exact .inl ⟨n, m, by rw [createFunction]; exact Step.bind_error failed, full⟩
  · refine .inr ⟨.stored d, b, ?_, adds⟩
    rw [createFunction]
    apply (Step.bind_ok allotted).trans
    rw [Step.bind_ok first, Step.bind_ok second]
    rfl

theorem createString_cases (bounded : a.store.Bounded) (v : String) :
    (∃ n m, createString v a = (.error (.allocationFailed n m), a) ∧
      a.store.room.reserve (Cell.plain (.string v)).bytes.length = none) ∨
      ∃ h b, createString v a = (.ok h, b) ∧ a.Adds (.plain (.string v)) h b := by
  have length : (Cell.plain (.string v)).payload.length = (Utf8.encode v).length + 4 := by
    simp only [Cell.payload, Content.payload, List.length_append, FixedWidth.length_encode]
    exact Nat.add_comm 4 _
  have whole : 1 + ((Utf8.encode v).length + 4) = (Cell.plain (.string v)).bytes.length := by
    rw [Cell.bytes_length, length]
    omega
  unfold createString
  split
  case isFalse large =>
    exact .inl ⟨_, _, rfl, PageStore.reserve_of_large bounded (by omega)⟩
  case isTrue small =>
    have size : (UInt32.ofNat ((Utf8.encode v).length + 4)).toNat = (Utf8.encode v).length + 4 := by
      rw [UInt32.toNat_ofNat', Nat.mod_eq_of_lt (by omega)]
    rcases allocate_cases bounded .string (UInt32.ofNat ((Utf8.encode v).length + 4)) with
      ⟨n, m, failed, full⟩ | ⟨addr, a₁, allotted, writes⟩
    · exact .inl ⟨n, m, Step.bind_error failed, by rw [← whole, ← size, full]⟩
    · rw [size] at writes
      have four : FixedWidth.width UInt32 = 4 := rfl
      obtain ⟨s, counted, writes⟩ := writes.storeField .stringLength
        (UInt32.ofNat (Utf8.encode v).length) rfl (by omega)
      obtain ⟨p, made, on, offset⟩ := writes.drafts.field (f := .stringBytes)
        (by simp [FixedWidth.length_encode, four]; rfl)
      obtain ⟨t, wrote, kept, drafts⟩ := writes.drafts.write (Utf8.encode v) on offset (by omega)
      have writes := writes.advance drafts kept (by omega)
      have stored : a₁.store.storeText addr v = (.ok (), t) := by
        have below : (Utf8.encode v).length ≤ 0xFFFFFFFF := by omega
        simp only [PageStore.storeText, below, ↓reduceIte, counted, made, Except.bind, wrote]
      have text := onStore_apply (x := fun s => s.storeText addr v) stored
      have bytes : [Kind.string.tag] ++ FixedWidth.encode (UInt32.ofNat (Utf8.encode v).length) ++
          Utf8.encode v = (Cell.plain (.string v)).bytes := by
        simp [Cell.bytes, Cell.payload, Content.payload, Cell.kind, Content.kind]
      have none_left : (Utf8.encode v).length + 4 - 4 - (Utf8.encode v).length = 0 := by omega
      rw [bytes, four, none_left] at writes
      refine .inr ⟨_, _, ?_, writes.adds (by rw [Cell.size, length])⟩
      apply (Step.bind_ok allotted).trans
      rw [Step.bind_ok text]
      rfl

/-- Whatever is created, other than a list or an object, is one cell more that holds it. -/
theorem create_cases (bounded : a.store.Bounded) (content : Content) :
    (∃ n m, create content a = (.error (.allocationFailed n m), a) ∧
      a.store.room.reserve (Cell.plain content).bytes.length = none) ∨
      ∃ h b, create content a = (.ok h, b) ∧ a.Adds (.plain content) h b := by
  cases content with
  | none =>
    rcases allocate_cases bounded .none 0 with ⟨n, m, failed, full⟩ | ⟨addr, a₁, allotted, writes⟩
    · exact .inl ⟨n, m, Step.bind_error failed, full⟩
    · have written : a.Writes addr (Cell.plain .none).bytes 0 a₁ := writes
      refine .inr ⟨_, a₁, ?_, written.adds rfl⟩
      apply (Step.bind_ok allotted).trans
      rfl
  | byte v => exact createScalar_cases bounded (.plain (.byte v)) v nofun rfl
  | integer v => exact createScalar_cases bounded (.plain (.integer v)) v nofun rfl
  | long v => exact createScalar_cases bounded (.plain (.long v)) v nofun rfl
  | float v => exact createScalar_cases bounded (.plain (.float v)) v nofun rfl
  | double v => exact createScalar_cases bounded (.plain (.double v)) v nofun rfl
  | string v => exact createString_cases bounded v
  | function v => exact createFunction_cases bounded v
  | nativeObject v => exact createScalar_cases bounded (.plain (.nativeObject v)) v nofun rfl
  | nativeFunction v =>
    exact createScalar_cases bounded (.plain (.nativeFunction v)) v nofun rfl

theorem createList_cases (bounded : a.store.Bounded) :
    (∃ n m, createList a = (.error (.allocationFailed n m), a) ∧
      a.store.room.reserve (Cell.list .null .null 0).bytes.length = none) ∨
      ∃ h b, createList a = (.ok h, b) ∧ a.Adds (.list .null .null 0) h b := by
  have fixed : (Cell.list .null .null 0).kind ≠ .string := nofun
  rcases allocate_cases bounded .list Kind.list.fixedSize with
    ⟨n, m, failed, full⟩ | ⟨addr, a₁, allotted, writes⟩
  · exact .inl ⟨n, m, Step.bind_error failed, length_of_fixed fixed ▸ full⟩
  · obtain ⟨a₂, first, writes⟩ := writes.writeField .listFirst Addr.null rfl (by decide)
    obtain ⟨a₃, last, writes⟩ := writes.writeField .listLast Addr.null
      (by simp [FixedWidth.length_encode]; rfl) (by decide)
    obtain ⟨a₄, count, writes⟩ := writes.writeField .listCount (0 : UInt32)
      (by simp [FixedWidth.length_encode]; rfl) (by decide)
    have bytes : [Kind.list.tag] ++ FixedWidth.encode Addr.null ++ FixedWidth.encode Addr.null ++
        FixedWidth.encode (0 : UInt32) = (Cell.list .null .null 0).bytes := by
      simp [Cell.bytes, Cell.payload, Cell.kind]
    rw [bytes] at writes
    refine .inr ⟨_, a₄, ?_, Writes.adds (c := .list .null .null 0) writes rfl⟩
    apply (Step.bind_ok allotted).trans
    rw [Step.bind_ok first, Step.bind_ok last, Step.bind_ok count]
    rfl

/-- How far the creation of an object comes. What a failure finds written stays. -/
inductive ObjectOutcome (a : Arena) : Except MemoryError Handle → Arena → Prop
  | nothing (n m) (full : a.store.room.reserve (Cell.list .null .null 0).bytes.length = none) :
      ObjectOutcome a (.error (.allocationFailed n m)) a
  | keys (n m keys a₁) (adds : a.Adds (.list .null .null 0) keys a₁)
      (full : a₁.store.room.reserve (Cell.list .null .null 0).bytes.length = none) :
      ObjectOutcome a (.error (.allocationFailed n m)) a₁
  | lists (n m keys values a₁ a₂) (adds_keys : a.Adds (.list .null .null 0) keys a₁)
      (adds_values : a₁.Adds (.list .null .null 0) values a₂)
      (full : a₂.store.room.reserve (Cell.object keys.addr values.addr).bytes.length = none) :
      ObjectOutcome a (.error (.allocationFailed n m)) a₂
  | whole (h keys values a₁ a₂ b) (adds_keys : a.Adds (.list .null .null 0) keys a₁)
      (adds_values : a₁.Adds (.list .null .null 0) values a₂)
      (adds : a₂.Adds (.object keys.addr values.addr) h b) : ObjectOutcome a (.ok h) b

theorem createObject_eq : createObject = do
    let keys ← createList
    let values ← createList
    return .stored (← createPair .object .objectKeys .objectValues keys.addr values.addr) := by
  simp only [createObject, createPair, bind_assoc, pure_bind]

theorem createObject_cases (bounded : a.store.Bounded) :
    ∃ result b, createObject a = (result, b) ∧ a.ObjectOutcome result b := by
  rw [createObject_eq]
  rcases createList_cases bounded with ⟨n, m, failed, full⟩ | ⟨keys, a₁, made_keys, adds_keys⟩
  · exact ⟨_, _, Step.bind_error failed, .nothing n m full⟩
  rcases createList_cases adds_keys.drafts.bounded with
    ⟨n, m, failed, full⟩ | ⟨values, a₂, made_values, adds_values⟩
  · exact ⟨_, _, (Step.bind_ok made_keys).trans (Step.bind_error failed),
      .keys n m keys a₁ adds_keys full⟩
  rcases createPair_cases adds_values.drafts.bounded (.object keys.addr values.addr) .objectKeys
      .objectValues keys.addr values.addr nofun rfl rfl rfl with
    ⟨n, m, failed, full⟩ | ⟨d, b, made, adds⟩
  · refine ⟨_, _, ?_, .lists n m keys values a₁ a₂ adds_keys adds_values full⟩
    exact (Step.bind_ok made_keys).trans ((Step.bind_ok made_values).trans (Step.bind_error failed))
  · refine ⟨_, _, ?_, .whole (.stored d) keys values a₁ a₂ b adds_keys adds_values adds⟩
    exact (Step.bind_ok made_keys).trans ((Step.bind_ok made_values).trans (Step.bind_ok made))

end ValueArena.Arena
