import ValueArena.Collection.ObjectView
import ValueArena.Proofs.Links.Fields
import ValueArena.Proofs.Memory.Requests
import ValueArena.Proofs.Run.Counters

/-!
Creations in whatever state requests leave. Every value but an object is written whole or not at
all, by whether the store serves the one request for its bytes. An object takes three requests, and
when a later one is refused the lists that the earlier ones were for stay, without an object.
-/
namespace ValueArena

variable {T : Type → Type → Type} [KeyMap T]

open PageStore

namespace Arena

/-- `b` is `a` with one value more, whose bytes are all written where nothing had been given out. -/
structure Gains (a : Arena) (c : Cell) (h : Handle) (b : Arena) : Prop where
  handle : h = .stored ⟨c.kind, c.size, h.addr⟩
  size : c.size.toNat = c.payload.length
  place : (a.store.reserve c.bytes.length).1 = .ok h.addr
  fresh : ∀ len bs, 0 < len → a.store.read h.addr len ≠ .ok bs
  written : b.store.read h.addr c.bytes.length = .ok c.bytes
  decoded : b.decode h.addr = .ok h
  keeps : a.store.Keeps b.store
  bounded : b.store.Bounded
  generation : b.generation = a.generation

/-- A value is created whole if the store serves the request for its bytes, and nothing happens if
it does not. -/
structure CreatesWhole (a : Arena) (x : ArenaStep Handle) (c : Cell) : Prop where
  refused : ∀ e, a.store.reserveAll [c.bytes.length] = .error e →
    ∃ n m, x a = (.error (.allocationFailed n m), a)
  served : ∀ s, a.store.reserveAll [c.bytes.length] = .ok s →
    ∃ h b, x a = (.ok h, b) ∧ a.Gains c h b ∧ b.store.room = s.room

/-- Lists without items are created, one after the other. -/
inductive GainsLists : Arena → List Handle → Arena → Prop
  | nil (a : Arena) : GainsLists a [] a
  | cons {a b c : Arena} {list : Handle} {lists : List Handle}
      (first : a.Gains (.list .null .null 0) list b) (rest : GainsLists b lists c) :
      GainsLists a (list :: lists) c

/-- The bytes that an object takes. Those of its two lists come first. -/
def objectLengths : List Nat := [21, 21, 17]

/-- An object is created whole with two empty lists if the store serves all requests for it. What
the requests before a refused one were for stays. -/
structure CreatesObject (a : Arena) : Prop where
  refused : ∀ count s e, a.store.reserveAll (objectLengths.take count) = .ok s →
    a.store.reserveAll (objectLengths.take (count + 1)) = .error e →
    ∃ n m lists b, createObject a = (.error (.allocationFailed n m), b) ∧ a.GainsLists lists b ∧
      lists.length = count
  served : ∀ s, a.store.reserveAll objectLengths = .ok s →
    ∃ h keys values b c, createObject a = (.ok h, c) ∧ a.GainsLists [keys, values] b ∧
      b.Gains (.object keys.addr values.addr) h c ∧ c.store.room = s.room ∧
      ∃ o, ObjectView.ofHandle c h = .ok o ∧ o.handle = h ∧ o.keys.handle = keys ∧
        o.values.handle = values ∧ o.keys.items = #[] ∧ o.values.items = #[]

/-- All creations from a state. -/
structure Creations (a : Arena) : Prop where
  content : ∀ content, a.CreatesWhole (create content) (.plain content)
  list : a.CreatesWhole createList (.list .null .null 0)
  object : a.CreatesObject

variable {a b : Arena} {c : Cell} {h : Handle} {x : ArenaStep Handle}

theorem Adds.gains (adds : a.Adds c h b) : a.Gains c h b := by
  have lies := adds.drafts.lies
  refine ⟨adds.handle, lies.toNat_size, adds.place, ?_, lies.read, ?_, adds.drafts.keeps,
    adds.drafts.bounded, adds.generation⟩
  · intro len bs some_byte
    exact adds.drafts.fresh some_byte bs
  · rw [decode_of_lies lies, ← adds.handle]

theorem Gains.lies (gains : a.Gains c h b) : b.store.Lies h.addr c :=
  lies_of_read gains.bounded gains.written

theorem createsWhole_of_cases (bounded : a.store.Bounded)
    (outcome : (∃ n m, x a = (.error (.allocationFailed n m), a) ∧
      a.store.room.reserve c.bytes.length = none) ∨
      ∃ h b, x a = (.ok h, b) ∧ a.Adds c h b) : a.CreatesWhole x c := by
  have same := reserveAll_room bounded [c.bytes.length]
  rw [Room.reserveAll_single] at same
  rcases outcome with ⟨n, m, failed, full⟩ | ⟨h, b, made, adds⟩
  · rw [full] at same
    constructor
    · intro _ _
      exact ⟨n, m, failed⟩
    · intro s served
      rw [served] at same
      cases same
  · rw [adds.room] at same
    constructor
    · intro e refused
      rw [refused] at same
      cases same
    · intro s served
      rw [served] at same
      exact ⟨h, b, made, adds.gains, (Option.some.inj same).symm⟩

end Arena

namespace ListView

/-- A list without items is opened without a walk. -/
theorem ofHandle_empty {a : Arena} {addr : Addr} {size : UInt32}
    (lies : a.store.Lies addr (.list .null .null 0)) :
    ofHandle a (.stored ⟨.list, size, addr⟩) =
      .ok ⟨⟨.list, size, addr⟩, #[], #[], some a.generation⟩ := by
  have header : (Handle.stored ⟨.list, size, addr⟩).require .list = .ok ⟨.list, size, addr⟩ :=
    Handle.require_stored lies.ne_null
  have counted : a.listCount ⟨.list, size, addr⟩ = .ok 0 := Arena.load_listCount lies
  have walked : refresh a (unread ⟨.list, size, addr⟩) =
      (.ok (), ⟨⟨.list, size, addr⟩, #[], #[], some a.generation⟩) := by
    simp only [refresh, Step.modify_bind, Step.view_bind, ListView.count, unread, counted,
      Arena.load_listFirst lies]
    rfl
  simp only [ofHandle, header, bind, Except.bind, walked]

end ListView

namespace Arena

variable {a b : Arena}

theorem length_emptyList : (Cell.list .null .null 0).bytes.length = 21 := by
  simp [Cell.bytes_length, Cell.payload, FixedWidth.length_encode]
  rfl

theorem length_object (keys values : Addr) : (Cell.object keys values).bytes.length = 17 := by
  simp [Cell.bytes_length, Cell.payload, FixedWidth.length_encode]
  rfl

/-- An object that was created with its two lists is opened with two empty views. -/
theorem ofHandle_gained {c : Arena} {keys values h : Handle}
    (lists : a.GainsLists [keys, values] b)
    (object : b.Gains (.object keys.addr values.addr) h c) :
    ∃ o, ObjectView.ofHandle c h = .ok o ∧ o.handle = h ∧ o.keys.handle = keys ∧
      o.values.handle = values ∧ o.keys.items = #[] ∧ o.values.items = #[] := by
  obtain _ | ⟨keys_list, _ | ⟨values_list, _ | _⟩⟩ := lists
  have keys_lie : c.store.Lies keys.addr (.list .null .null 0) :=
    lies_of_read object.bounded
      (object.keeps _ _ _ (values_list.keeps _ _ _ keys_list.written))
  have values_lie : c.store.Lies values.addr (.list .null .null 0) :=
    lies_of_read object.bounded (object.keeps _ _ _ values_list.written)
  have object_lies := object.lies
  have required := Handle.require_stored
    (d := ⟨.object, (Cell.object keys.addr values.addr).size, h.addr⟩) object_lies.ne_null
  have named : h = .stored ⟨.object, (Cell.object keys.addr values.addr).size, h.addr⟩ :=
    object.handle
  rw [← named] at required
  have decoded_keys := decode_of_lies keys_lie
  have decoded_values := decode_of_lies values_lie
  simp only [Cell.kind] at decoded_keys decoded_values
  have opened : ObjectView.ofHandle c h = .ok
      ⟨⟨.object, (Cell.object keys.addr values.addr).size, h.addr⟩,
        ⟨⟨.list, (Cell.list .null .null 0).size, keys.addr⟩, #[], #[], some c.generation⟩,
        ⟨⟨.list, (Cell.list .null .null 0).size, values.addr⟩, #[], #[], some c.generation⟩⟩ := by
    simp only [ObjectView.ofHandle, required, bind, Except.bind, load_objectKeys object_lies,
      load_objectValues object_lies, decoded_keys, decoded_values,
      ListView.ofHandle_empty keys_lie, ListView.ofHandle_empty values_lie]
    rfl
  exact ⟨_, opened, named.symm, keys_list.handle.symm, values_list.handle.symm, rfl, rfl⟩

/-- The creation of an object ends with the first of its requests that is refused, if one is. -/
theorem createObject_requests (bounded : a.store.Bounded) :
    (∃ n m lists b, createObject a = (.error (.allocationFailed n m), b) ∧ a.GainsLists lists b ∧
      (a.store.room.reserveAll (objectLengths.take lists.length)).isSome = true ∧
      a.store.room.reserveAll (objectLengths.take (lists.length + 1)) = none) ∨
    ∃ h keys values b c, createObject a = (.ok h, c) ∧ a.GainsLists [keys, values] b ∧
      b.Gains (.object keys.addr values.addr) h c ∧
      a.store.room.reserveAll objectLengths = some c.store.room := by
  obtain ⟨result, b, made, outcome⟩ := createObject_cases bounded
  cases outcome with
  | nothing n m full =>
    rw [length_emptyList] at full
    exact .inl ⟨n, m, [], a, made, .nil a, rfl, by simp [objectLengths, full]⟩
  | keys n m keys a₁ adds full =>
    have lists : a.GainsLists [keys] b := .cons adds.gains (.nil b)
    have first := adds.room
    rw [length_emptyList] at first full
    refine .inl ⟨n, m, [keys], b, made, lists, ?_, ?_⟩
    · simp [objectLengths, first]
    · simp [objectLengths, Room.reserveAll, first, full]
  | lists n m keys values a₁ a₂ adds_keys adds_values full =>
    have lists : a.GainsLists [keys, values] b :=
      .cons adds_keys.gains (.cons adds_values.gains (.nil b))
    have first := adds_keys.room
    have second := adds_values.room
    rw [length_emptyList] at first second
    rw [length_object] at full
    refine .inl ⟨n, m, [keys, values], b, made, lists, ?_, ?_⟩
    · simp [objectLengths, Room.reserveAll, first, second]
    · simp [objectLengths, Room.reserveAll, first, second, full]
  | whole h keys values a₁ a₂ b adds_keys adds_values adds =>
    have lists : a.GainsLists [keys, values] a₂ :=
      .cons adds_keys.gains (.cons adds_values.gains (.nil a₂))
    have first := adds_keys.room
    have second := adds_values.room
    have third := adds.room
    rw [length_emptyList] at first second
    rw [length_object] at third
    refine .inr ⟨h, keys, values, a₂, b, made, lists, adds.gains, ?_⟩
    simp [objectLengths, Room.reserveAll, first, second, third]

theorem createsObject_of_bounded (bounded : a.store.Bounded) : a.CreatesObject := by
  have same := reserveAll_room bounded
  rcases createObject_requests bounded with
    ⟨n, m, lists, b, failed, gains, served, refused⟩ |
    ⟨h, keys, values, b, c, made, lists, object, room⟩
  · constructor
    · intro count s e before last
      have before_room := same (objectLengths.take count)
      have last_room := same (objectLengths.take (count + 1))
      rw [before] at before_room
      rw [last] at last_room
      -- The first refused request is the one that ended the creation.
      have least := Room.le_of_refused served last_room.symm
      have most := Room.le_of_refused (i := count) (by rw [← before_room]; rfl) refused
      exact ⟨n, m, lists, b, failed, gains, Nat.le_antisymm least most⟩
    · intro s all
      have whole := same objectLengths
      rw [all] at whole
      have first := Room.reserveAll_take (r := a.store.room) (lists.length + 1)
        (by rw [← whole]; rfl)
      rw [refused] at first
      cases first
  · constructor
    · intro count s e _ last
      have last_room := same (objectLengths.take (count + 1))
      have first := Room.reserveAll_take (r := a.store.room) (count + 1) (by rw [room]; rfl)
      rw [last] at last_room
      rw [← last_room] at first
      cases first
    · intro s all
      have whole := same objectLengths
      rw [all, room] at whole
      exact ⟨h, keys, values, b, c, made, lists, object, (Option.some.inj whole).symm,
        ofHandle_gained lists object⟩

theorem creations_of_bounded (bounded : a.store.Bounded) : a.Creations := by
  constructor
  · exact fun content => createsWhole_of_cases bounded (create_cases bounded content)
  · exact createsWhole_of_cases bounded (createList_cases bounded)
  · exact createsObject_of_bounded bounded

end Arena

namespace Session

/-- In every arena of a session, whatever has been asked of it. -/
theorem creations_after (config : Config) (names : Names) (registry : Registry T)
    (requests : List Request) (i : Nat) (a : Arena)
    (found : (Session.after ⟨#[.empty config], names, registry⟩ requests).arenas[i]? = some a) :
    a.Creations := by
  have bounded := bounded_after config names registry found
  exact Arena.creations_of_bounded bounded

/-- A long in an arena of one page. -/
def longSample : Session :=
  after ⟨#[.empty ⟨64, some 64⟩], .empty, .empty⟩ [⟨0, .statement ⟨none, .create (.long 7)⟩⟩]

/-- The room left suffices for another double and not for a text. -/
theorem creations_after_longSample : ∃ a, longSample.arenas[0]? = some a ∧
    (Arena.create (.double ⟨0⟩) a).1.isOk = true ∧
    (Arena.create (.string (String.ofList (List.replicate 60 'x'))) a).1.isOk = false ∧
    a.Creations := by
  have tried : longSample.arenas[0]?.map (fun a => ((Arena.create (.double ⟨0⟩) a).1.isOk,
      (Arena.create (.string (String.ofList (List.replicate 60 'x'))) a).1.isOk)) =
      some (true, false) := by decide +kernel
  obtain ⟨a, found, answers⟩ := Option.map_eq_some_iff.mp tried
  exact ⟨a, found, congrArg Prod.fst answers, congrArg Prod.snd answers,
    creations_after ⟨64, some 64⟩ .empty .empty _ 0 a found⟩

/-- An object that finds no room for its last request leaves two lists behind. -/
theorem longSample_createObject : ∃ a, longSample.arenas[0]? = some a ∧
    (Arena.createObject a).1 = .error (.allocationFailed 64 64) ∧
    a.offset = 9 ∧ (Arena.createObject a).2.offset = 51 := by
  have tried : longSample.arenas[0]?.map (fun a => ((Arena.createObject a).1, a.offset,
      (Arena.createObject a).2.offset)) = some (.error (.allocationFailed 64 64), 9, 51) := by
    decide +kernel
  obtain ⟨a, found, answers⟩ := Option.map_eq_some_iff.mp tried
  exact ⟨a, found, congrArg Prod.fst answers, congrArg (·.2.1) answers, congrArg (·.2.2) answers⟩

end Session
end ValueArena
