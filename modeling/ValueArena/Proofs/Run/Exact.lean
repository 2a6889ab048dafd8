import ValueArena.Proofs.Run.OutOfStep
import ValueArena.Proofs.Run.Sequences
import ValueArena.Proofs.View.Exact

/-!
Appends and new keys in whatever state a program leaves. Each is made as a whole or not at all, and
it is made exactly if the store would serve its requests one after another.
-/
namespace ValueArena

variable {T : Type → Type → Type} [KeyMap T]

namespace ListView

/-- `b` is `a` with an item more at the end of the list of the view, and nothing else changed. -/
structure Appends (v : ListView) (a : Arena) (content item : Handle) (u : ListView) (b : Arena) :
    Prop where
  header : u.header = v.header
  makes : a.Makes b item
  stores : ∃ kept, a.Stores b content kept ∧
    a.Changed b [.append v.header.addr ⟨item.addr, kept⟩]
  generation : b.generation = a.generation + 1

/-- An append changes nothing if one of its requests would be refused, and takes just what they
take if none would. -/
structure AppendsExactly (v : ListView) (a : Arena) (content : Handle) : Prop where
  refused : ∀ e, a.store.reserveAll (Arena.appendLengths content) = .error e →
    ∃ n m, append content (v, a) = (.error (.allocationFailed n m), (v, a))
  served : ∀ s, a.store.reserveAll (Arena.appendLengths content) = .ok s →
    ∃ item u b, append content (v, a) = (.ok item, (u, b)) ∧ v.Appends a content item u b ∧
      b.store.room = s.room

variable {a b : Arena} {p q : Picture} {v : ListView} {content : Handle}

theorem appends_of_appended {item kept : Handle} {u : ListView} (shows : a.Shows p)
    (sees : p.Sees v) (appends : a.Appended p v.header.addr content item kept b q)
    (header : u.header = v.header) : v.Appends a content item u b := by
  refine ⟨header, appends.makes shows, ⟨kept.addr,
    Arena.stores_of_keeps shows appends.shows appends.keeps appends.kept_handle, ?_⟩, ?_⟩
  · apply shows.changed appends.shows appends.evolves
    intro l unlisted
    exact on_append_other (sees.ne_of_unlisted unlisted) _ _
  · rw [appends.shows.generation, shows.generation, appends.evolves.writes, UInt64.ofNat_add]
    rfl

theorem appendsExactly_of_sees (shows : a.Shows p) (sees : p.Sees v)
    (issued : p.heap.Issued content) (short : v.count a ≠ .ok 0xFFFFFFFF)
    (pages : a.store.HasPages (Arena.appendLengths content)) : v.AppendsExactly a content := by
  have same := PageStore.reserveAll_room shows.holds.bounded (Arena.appendLengths content)
  rcases append_exact shows sees issued (length_lt_of_count_ne shows sees short) pages with
    ⟨none, failed⟩ | ⟨item, kept, b, q, u, appended, appends, header⟩
  · rw [none] at same
    refine ⟨fun _ _ => failed, ?_⟩
    intro s served
    rw [served] at same
    cases same
  · rw [appends.room] at same
    constructor
    · intro e refused
      rw [refused] at same
      cases same
    · intro s served
      rw [served] at same
      exact ⟨item, u, b, appended, appends_of_appended shows sees appends header,
        (Option.some.inj same).symm⟩

end ListView

namespace ObjectView

/-- `b` is `a` with a key more in the object of the view, an empty slot for it, and nothing else
changed. -/
structure GainsKey (o : ObjectView) (a : Arena) (key : String) (item : Handle) (u : ObjectView)
    (b : Arena) : Prop where
  header : u.header = o.header
  makes : a.Makes b item
  entry : ∃ e, Command.NewKey a b key e ∧ a.Changed b [.append o.keys.header.addr e,
    .append o.values.header.addr ⟨item.addr, .null⟩]
  generation : b.generation = a.generation + 2

/-- A new key changes nothing if one of its requests would be refused, and takes just what they
take if none would. -/
structure GainsKeyExactly (o : ObjectView) (a : Arena) (key : String) : Prop where
  refused : ∀ e, a.store.reserveAll (keyLengths key) = .error e →
    ∃ n m, addKey key (o, a) = (.error (.allocationFailed n m), (o, a))
  served : ∀ s, a.store.reserveAll (keyLengths key) = .ok s →
    ∃ item u b, addKey key (o, a) = (.ok item, (u, b)) ∧ o.GainsKey a key item u b ∧
      b.store.room = s.room

variable {a b : Arena} {p q : Picture} {o : ObjectView} {key : String}

theorem gainsKey_of_keyAdded {item : Handle} {u : ObjectView} (shows : a.Shows p)
    (sees : p.SeesObject o) (adds : KeyAdded a p o key item u b q) : o.GainsKey a key item u b := by
  obtain ⟨e, entry, evolves⟩ := adds.entry
  obtain ⟨c, found⟩ := adds.cell
  refine ⟨adds.header, shows.makes adds.shows adds.fresh found adds.handle,
    ⟨e, Command.newKey_of_entry shows adds.shows entry, ?_⟩, ?_⟩
  · apply shows.changed adds.shows evolves
    intro l unlisted
    simp only [List.foldl_cons, List.foldl_nil,
      on_append_other (sees.keys.ne_of_unlisted unlisted),
      on_append_other (sees.values.ne_of_unlisted unlisted)]
  · rw [adds.shows.generation, shows.generation, evolves.writes, UInt64.ofNat_add]
    rfl

theorem gainsKeyExactly_of_sees (shows : a.Shows p) (sees : p.SeesObject o)
    (slots_le : (p.lists o.values.header.addr).length ≤ (p.lists o.keys.header.addr).length)
    (short : o.size a ≠ .ok 0xFFFFFFFF) (small : 5 + (Utf8.encode key).length ≤ 0xFFFFFFFF)
    (pages : a.store.HasPages (keyLengths key)) : o.GainsKeyExactly a key := by
  have same := PageStore.reserveAll_room shows.holds.bounded (keyLengths key)
  have short_keys := ListView.length_lt_of_count_ne shows sees.keys short
  rcases addKey_exact shows sees small short_keys (by omega) pages with
    ⟨none, failed⟩ | ⟨item, u, b, q, added, adds, room⟩
  · rw [none] at same
    refine ⟨fun _ _ => failed, ?_⟩
    intro s served
    rw [served] at same
    cases same
  · rw [room] at same
    constructor
    · intro e refused
      rw [refused] at same
      cases same
    · intro s served
      rw [served] at same
      exact ⟨item, u, b, added, gainsKey_of_keyAdded shows sees adds, (Option.some.inj same).symm⟩

end ObjectView

namespace Command

/-- A command appends to neither list of the object at `x`, other than by adding a key. -/
def LeavesLists (x : Addr) (state : Names × Arena) (c : Command) : Prop :=
  ∀ keys values l, state.2.HasLists x keys values → c.extends? state.1 = some l →
    l ≠ keys ∧ l ≠ values

theorem leavesLists_of_extends?_eq_none {c : Command} {state : Names × Arena} (x : Addr)
    (none : c.extends? state.1 = none) : c.LeavesLists x state := by
  intro keys values l _ extended
  rw [none] at extended
  cases extended

end Command

/-- The object at an address, if there is one by now, has a key for every slot. -/
def Picture.HasKeys (p : Picture) (x : Addr) : Prop :=
  ∀ k v, p.heap x = some (.object k v) → (p.lists v).length ≤ (p.lists k).length

theorem Command.Advances.hasKeys {n m : Names} {a b : Arena} {p q : Picture} {c : Command}
    {changes : List Change} {result : Except Fault Answer} {x : Addr}
    (advances : Advances n a p c result m b q changes) (leaves : c.LeavesLists x (n, a))
    (shows : a.Shows p) (names : n.Fits p) (hasKeys : p.HasKeys x) : q.HasKeys x := by
  intro k v at_x
  rcases advances.evolves.objects x k v at_x with before | ⟨new_k, new_v⟩
  case inr => rw [advances.lists_new shows names new_v]; exact Nat.zero_le _
  case inl =>
    have slots_le := hasKeys k v before
    have left := fun l => leaves k v l ((Arena.hasLists_iff shows).mpr before)
    have performs := advances.performs
    rw [advances.evolves.lists k, advances.evolves.lists v]
    cases performs with
    | quiet => exact slots_le
    | failed => exact slots_le
    | replace _ target _ _ kept => simpa [Change.on] using slots_le
    | append name command content u h item kept form view =>
      obtain ⟨not_k, not_v⟩ := left u.header.addr (by simp only [extends?, form, view]; rfl)
      simp only [List.foldl_cons, List.foldl_nil]
      rw [on_append_other not_k.symm, on_append_other not_v.symm]
      exact slots_le
    | addKey name key o item e view =>
      obtain ⟨more, longer_k, longer_v⟩ := shows.formed.length_on_addKey before
        (names.objects name o view).cell e ⟨item.addr, .null⟩
      omega
    | addKeyAlone name key o fault e view =>
      obtain ⟨_, _, differ⟩ := shows.formed.object _ _ _ before
      simp only [List.foldl_cons, List.foldl_nil]
      rcases shows.formed.object_cases before (names.objects name o view).cell with
        ⟨_, same, _⟩ | ⟨_, k_k, _, v_k, _⟩
      · rw [same, on_append_self, on_append_other differ.symm, List.length_append]
        omega
      · rw [on_append_other k_k, on_append_other v_k]
        exact slots_le

namespace Statement

/-- An object whose lists a program has left alone has a key for every slot. -/
theorem hasKeys_after (r : Registry T) (config : Config) (x : Addr) {program : List Statement}
    (allowed : ∀ s ∈ program, s.command.isPublic = true)
    (left : Throughout r (fun state s => s.command.LeavesLists x state) program
      (.empty, .empty config)) :
    ∃ p, (after r config program).2.Shows p ∧ (after r config program).1.Fits p ∧ p.HasKeys x := by
  obtain ⟨p, shows, names, _, hasKeys⟩ := after_keeps r config _ (Picture.HasKeys · x)
    (fun _ _ _ _ _ _ _ _ _ shows names _ leaves advances hasKeys =>
      advances.hasKeys leaves shows names hasKeys) allowed (Nat.lt_succ_self _) left nofun
  exact ⟨p, shows, names, hasKeys⟩

/-- After a program every append is exact, and so is every new key of an object whose lists the
program has left alone, as long as there are counts and page numbers left. -/
structure AllOrNothing (r : Registry T) (config : Config) (program : List Statement) : Prop where
  append : ∀ (name : String) (v : ListView) (content : HandleArg) (h : Handle),
    (after r config program).1.lists.find? name = some v →
    content.value? (after r config program).1 = some h →
    v.count (after r config program).2 ≠ .ok 0xFFFFFFFF →
    (after r config program).2.store.HasPages (Arena.appendLengths h) →
    v.AppendsExactly (after r config program).2 h
  addKey : ∀ (name : String) (o : ObjectView) (key : String),
    (after r config program).1.objects.find? name = some o →
    Throughout r (fun state s => s.command.LeavesLists o.header.addr state) program
      (.empty, .empty config) →
    o.size (after r config program).2 ≠ .ok 0xFFFFFFFF →
    5 + (Utf8.encode key).length ≤ 0xFFFFFFFF →
    (after r config program).2.store.HasPages (ObjectView.keyLengths key) →
    o.GainsKeyExactly (after r config program).2 key

theorem allOrNothing_after (r : Registry T) (config : Config) (program : List Statement)
    (allowed : ∀ s ∈ program, s.command.isPublic = true) : AllOrNothing r config program := by
  constructor
  · intro name v content h view given short pages
    obtain ⟨p, shows, names, _⟩ := after_shows r config allowed
    exact ListView.appendsExactly_of_sees shows (names.lists name v view)
      (HandleArg.issued names shows.formed.null given) short pages
  · intro name o key view left short small pages
    obtain ⟨p, shows, names, hasKeys⟩ := hasKeys_after r config o.header.addr allowed left
    have sees := names.objects name o view
    exact ObjectView.gainsKeyExactly_of_sees shows sees (hasKeys _ _ sees.cell) short small pages

/-- An append of a number for which the last page has the 9 bytes of the number but not the 17 of
the item, and a new key that begins in the last page and goes on in another. -/
theorem allOrNothing_after_samples :
    (∃ v, (after .empty ⟨64, some 192⟩ sample).1.lists.find? "list" = some v ∧
      (after .empty ⟨64, some 192⟩ sample).2.store.remaining = 22 ∧
      ∃ n m, ListView.append (.immediate 7) (v, (after .empty ⟨64, some 192⟩ sample).2) =
        (.error (.allocationFailed n m), (v, (after .empty ⟨64, some 192⟩ sample).2))) ∧
    ∃ o, (after .empty ⟨64, some 256⟩ Command.keyedSample).1.objects.find? "object" = some o ∧
      (after .empty ⟨64, some 256⟩ Command.keyedSample).2.store.remaining = 21 ∧
      ∃ item u b,
        ObjectView.addKey "new" (o, (after .empty ⟨64, some 256⟩ Command.keyedSample).2) =
          (.ok item, (u, b)) ∧
        o.GainsKey (after .empty ⟨64, some 256⟩ Command.keyedSample).2 "new" item u b := by
  constructor
  · have facts : ((after .empty ⟨64, some 192⟩ sample).1.lists.find? "list").map
        (fun v => v.count (after .empty ⟨64, some 192⟩ sample).2) = some (.ok 1) ∧
        (after .empty ⟨64, some 192⟩ sample).2.store.HasPages
          (Arena.appendLengths (.immediate 7)) ∧
        ((after .empty ⟨64, some 192⟩ sample).2.store.reserveAll
          (Arena.appendLengths (.immediate 7))).isOk = false ∧
        (after .empty ⟨64, some 192⟩ sample).2.store.remaining = 22 := by decide +kernel
    obtain ⟨counted, pages, refused, left⟩ := facts
    obtain ⟨v, view, count⟩ := Option.map_eq_some_iff.mp counted
    have appends := (allOrNothing_after .empty ⟨64, some 192⟩ sample (by decide)).append "list" v
      (.immediate 7) (.immediate 7) view rfl (by simp [count]) pages
    refine ⟨v, view, left, ?_⟩
    cases gives : (after .empty ⟨64, some 192⟩ sample).2.store.reserveAll
        (Arena.appendLengths (.immediate 7)) with
    | error e => exact appends.refused e gives
    | ok s =>
      rw [gives] at refused
      cases refused
  · have facts : ((after .empty ⟨64, some 256⟩ Command.keyedSample).1.objects.find?
          "object").map (fun o => o.size (after .empty ⟨64, some 256⟩ Command.keyedSample).2) =
            some (.ok 2) ∧
        5 + (Utf8.encode "new").length ≤ 0xFFFFFFFF ∧
        (after .empty ⟨64, some 256⟩ Command.keyedSample).2.store.HasPages
          (ObjectView.keyLengths "new") ∧
        ((after .empty ⟨64, some 256⟩ Command.keyedSample).2.store.reserveAll
          (ObjectView.keyLengths "new")).isOk = true ∧
        (after .empty ⟨64, some 256⟩ Command.keyedSample).2.store.remaining = 21 := by
      decide +kernel
    obtain ⟨counted, small, pages, served, left⟩ := facts
    obtain ⟨o, view, size⟩ := Option.map_eq_some_iff.mp counted
    have leaves := @Command.leavesLists_of_extends?_eq_none
    have gains := (allOrNothing_after .empty ⟨64, some 256⟩ Command.keyedSample
      (by decide)).addKey "object" o "new" view
        ⟨leaves _ rfl, leaves _ rfl, leaves _ rfl, leaves _ rfl, leaves _ rfl, trivial⟩
        (by simp [size]) small pages
    refine ⟨o, view, left, ?_⟩
    cases gives : (after .empty ⟨64, some 256⟩ Command.keyedSample).2.store.reserveAll
        (ObjectView.keyLengths "new") with
    | error e =>
      rw [gives] at served
      cases served
    | ok s =>
      obtain ⟨item, u, b, added, gained, _⟩ := gains.served s gives
      exact ⟨item, u, b, added, gained⟩

end Statement
end ValueArena
