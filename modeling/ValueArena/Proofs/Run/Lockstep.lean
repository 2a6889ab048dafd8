import ValueArena.Proofs.Run.Program
import ValueArena.Proofs.View.Keys
import ValueArena.Proofs.View.Reads

/-!
The two lists of an object stay in step as long as nothing else appends to them or takes a key for
a slot: every key has its slot. A key is left without one only where no page may be opened for it,
and each such page leaves one key at most.
-/
namespace ValueArena

variable {T : Type → Type → Type} [KeyMap T]

namespace Arena

/-- An object with these lists for its keys and its values. -/
structure HasLists (a : Arena) (x keys values : Addr) : Prop where
  object : a.Starts .object x
  keys : a.loadField Addr x .objectKeys = .ok keys
  values : a.loadField Addr x .objectValues = .ok values

def HasItem (a : Arena) (l addr : Addr) : Prop :=
  ∃ es e, a.Represents l es ∧ e ∈ es ∧ e.item = addr

variable {a : Arena} {p : Picture} {x keys values : Addr}

theorem hasLists_iff (shows : a.Shows p) :
    a.HasLists x keys values ↔ p.heap x = some (.object keys values) := by
  constructor
  · intro given
    obtain ⟨object, at_keys, at_values⟩ := given
    obtain ⟨c, found, kind⟩ := (starts_iff shows.holds).mp object
    obtain ⟨k, v, rfl⟩ := Cell.eq_object_of_kind kind
    rw [load_objectKeys (shows.holds.lies found)] at at_keys
    rw [load_objectValues (shows.holds.lies found)] at at_values
    cases at_keys
    cases at_values
    exact found
  · intro found
    exact ⟨(starts_iff shows.holds).mpr ⟨_, found, rfl⟩, load_objectKeys (shows.holds.lies found),
      load_objectValues (shows.holds.lies found)⟩

theorem hasItem_of_getElem? (shows : a.Shows p) {l : Addr} {i : Nat} {e : Entry}
    (found : (p.lists l)[i]? = some e) : a.HasItem l e.item :=
  ⟨_, e, shows.represents (shows.formed.list_isList found), List.mem_of_getElem? found, rfl⟩

end Arena

namespace Command

/-- The list that a command appends to other than through an object. -/
def extends? (n : Names) : Command → Option Addr
  | .onList name command =>
    match appended? command with
    | some _ => (n.lists.find? name).map fun v => v.header.addr
    | none => none
  | _ => none

/-- The item that a command is given, or finds in a list, for a new content. -/
def aims? (n : Names) (a : Arena) : Command → Option Handle
  | .onList _ (.setContent item _) => item.value? n
  | .onList name (.setContentAt index _) =>
    (n.lists.find? name).bind fun v => (ListView.item a index v).1.toOption
  | .onObject _ (.setSlot item _) => item.value? n
  | _ => none

/-- A command does not go round the object at `x`: it appends to neither list but by adding a key,
and no item of a key is given to it as a slot. What adding a key answers, and what is under a key,
are items of the other list. -/
def Spares (x : Addr) (state : Names × Arena) (c : Command) : Prop :=
  ∀ keys values, state.2.HasLists x keys values →
    (∀ l, c.extends? state.1 = some l → l ≠ keys ∧ l ≠ values) ∧
    ∀ target, c.aims? state.1 state.2 = some target → ¬ state.2.HasItem keys target.addr

theorem spares_of_idle {c : Command} {state : Names × Arena} (x : Addr)
    (extended : c.extends? state.1 = none) (aimed : c.aims? state.1 state.2 = none) :
    c.Spares x state := by
  intro keys values _
  rw [extended, aimed]
  exact ⟨nofun, nofun⟩

end Command

/-- These are the texts of the keys, and as many slots are there. -/
structure Picture.Keyed (p : Picture) (keysList valuesList : Addr) (keys : List String) : Prop where
  texts : p.heap.Texts (p.lists keysList) keys
  slots_le : (p.lists valuesList).length ≤ keys.length
  keys_le : keys.length ≤ (p.lists valuesList).length + p.room.lapses Arena.itemLength

/-- So many keys and slots can belong together. A key lacks its slot only where no page was to be
had for it, one key for each such page. If the system refuses no page this can happen only at the
end of the page numbers, to one key. -/
structure Arena.InStep (a : Arena) (keys slots : Nat) : Prop where
  slots_le : slots ≤ keys
  keys_le : keys ≤ slots + a.lapses
  provided : (∀ pages size, a.store.config.provides pages size = true) →
    keys = slots ∨ keys = slots + 1 ∧ a.Exhausted

theorem Picture.Keyed.inStep {a : Arena} {p : Picture} {k v : Addr} {keys : List String}
    (keyed : p.Keyed k v keys) (shows : a.Shows p) : a.InStep keys.length (p.lists v).length := by
  have slots_le := keyed.slots_le
  have keys_le : keys.length ≤ (p.lists v).length + a.lapses := by
    rw [shows.lapses_eq]
    exact keyed.keys_le
  refine ⟨slots_le, keys_le, ?_⟩
  intro provides
  have counted : a.lapses = if a.Exhausted then 1 else 0 :=
    PageStore.Room.lapses_of_provides provides shows.holds.bounded.pages_le
  by_cases exhausted : a.Exhausted
  · rw [counted, if_pos exhausted] at keys_le
    rcases Nat.lt_or_eq_of_le slots_le with more | equal
    · exact .inr ⟨by omega, exhausted⟩
    · exact .inl equal.symm
  · rw [counted, if_neg exhausted] at keys_le
    exact .inl (Nat.le_antisymm keys_le slots_le)

/-- The lists of the object at an address, if there is one by now, are in step. -/
def Picture.InStep (p : Picture) (x : Addr) : Prop :=
  ∀ keysList valuesList, p.heap x = some (.object keysList valuesList) →
    ∃ keys, p.Keyed keysList valuesList keys

namespace Picture

variable {a b : Arena} {p q : Picture} {k v : Addr} {keys : List String} {key : String}
  {e f : Entry} {changes : List Change}

theorem Keyed.stay (keyed : p.Keyed k v keys) (evolves : p.Evolves changes q)
    (same : q.lists k = p.lists k) (length : (q.lists v).length = (p.lists v).length) :
    q.Keyed k v keys := by
  obtain ⟨texts, slots_le, keys_le⟩ := keyed
  have more := evolves.room.lapses_le Arena.itemLength
  refine ⟨?_, by omega, by omega⟩
  rw [same]
  exact texts.grows evolves.grows

theorem Keyed.add (keyed : p.Keyed k v keys) (evolves : p.Evolves changes q)
    (text : q.heap e.content = some (.plain (.string key)))
    (key_added : q.lists k = p.lists k ++ [e]) (slot_added : q.lists v = p.lists v ++ [f]) :
    q.Keyed k v (keys ++ [key]) := by
  obtain ⟨texts, slots_le, keys_le⟩ := keyed
  have more := evolves.room.lapses_le Arena.itemLength
  constructor
  case texts =>
    rw [key_added]
    exact (texts.grows evolves.grows).append text
  case slots_le =>
    rw [slot_added, List.length_append, List.length_append]
    exact Nat.add_le_add_right slots_le _
  case keys_le =>
    simp only [slot_added, List.length_append, List.length_singleton]
    omega

/-- A key that is left without a slot is counted by the room that ran out. -/
theorem Keyed.addAlone (keyed : p.Keyed k v keys) (evolves : p.Evolves changes q)
    (text : q.heap e.content = some (.plain (.string key)))
    (key_added : q.lists k = p.lists k ++ [e]) (same : q.lists v = p.lists v)
    (more : p.room.lapses Arena.itemLength < q.room.lapses Arena.itemLength) :
    q.Keyed k v (keys ++ [key]) := by
  obtain ⟨texts, slots_le, keys_le⟩ := keyed
  constructor
  case texts =>
    rw [key_added]
    exact (texts.grows evolves.grows).append text
  case slots_le =>
    rw [same, List.length_append]
    omega
  case keys_le =>
    rw [same, List.length_append, List.length_singleton]
    omega

end Picture

theorem on_append_other {l m : Addr} (other : m ≠ l) (es : List Entry) (e : Entry) :
    Change.on m es (.append l e) = es := by simp [Change.on, other]

theorem on_append_self (l : Addr) (es : List Entry) (e : Entry) :
    Change.on l es (.append l e) = es ++ [e] := by simp [Change.on]

theorem on_replace_other {es : List Entry} {item : Addr} (other : ∀ e ∈ es, e.item ≠ item)
    (l content : Addr) : Change.on l es (.replace item content) = es := by
  refine (List.map_congr_left ?_).trans (List.map_id es)
  intro e member
  simp [Entry.refill, other e member]

/-- Two objects share no list. -/
theorem Heap.Formed.object_cases {heap : Heap} {lists : Addr → List Entry}
    (formed : heap.Formed lists) {x o k v k' v' : Addr} (at_x : heap x = some (.object k v))
    (at_o : heap o = some (.object k' v')) :
    o = x ∧ k' = k ∧ v' = v ∨ o ≠ x ∧ k ≠ k' ∧ k ≠ v' ∧ v ≠ k' ∧ v ≠ v' := by
  by_cases same : o = x
  · rw [same, at_x] at at_o
    cases at_o
    exact .inl ⟨same, rfl, rfl⟩
  · have apart : ∀ {l m : Addr}, (l = k ∨ l = v) → (m = k' ∨ m = v') → l ≠ m := by
      intro l m owns owns' same
      subst same
      exact same (formed.separate o x _ _ l at_o at_x owns' owns)
    exact .inr ⟨same, apart (.inl rfl) (.inl rfl), apart (.inl rfl) (.inr rfl),
      apart (.inr rfl) (.inl rfl), apart (.inr rfl) (.inr rfl)⟩

namespace Command

variable {n m : Names} {a b : Arena} {p q : Picture} {c : Command} {changes : List Change}
  {result : Except Fault Answer} {x k v : Addr} {keys : List String} {name key : String}
  {o : ObjectView}

/-- The content of a new key in a list is its text. -/
theorem NewKey.text_cell {e : Entry} (entry : NewKey a b key e) (shows : b.Shows q)
    {l : Addr} {i : Nat} (found : (q.lists l)[i]? = some e) :
    q.heap e.content = some (.plain (.string key)) := by
  obtain ⟨h, addr, ⟨_, decoded⟩, kind, read⟩ := entry.text
  rw [addr, ListView.decode_content shows (shows.formed.content l i e found)] at decoded
  obtain rfl := Except.ok.inj decoded
  rcases shows.formed.content l i e found with null | ⟨c, at_content, _⟩
  · rw [null, Heap.handleAt_of_none shows.formed.null] at kind
    cases kind
  · rw [Heap.handleAt_of_some at_content] at kind
    obtain ⟨old, rfl⟩ := Cell.eq_plain_of_kind (.string key) kind
    cases old with
    | string text =>
      rw [Arena.readString_of_holds shows.holds at_content] at read
      rw [at_content, Except.ok.inj read]
    | _ => cases kind

/-- What is under a key of an object is an item of its values. -/
theorem slot_item (shows : a.Shows p) (sees : p.SeesObject o)
    (few : p.writes < 0x10000000000000000) {target : Handle}
    (answer : (ObjectView.slot a key o).1 = .ok target) :
    ∃ (i : Nat) (e : Entry), (ObjectView.position a key o).1 = .ok i ∧
      (p.lists o.values.header.addr)[i]? = some e ∧ e.item = target.addr := by
  rw [ObjectView.slot_apply] at answer
  obtain ⟨i, position, read⟩ : ∃ i, (ObjectView.position a key o).1 = .ok i ∧
      (ListView.item a i o.values).1 = .ok target := by
    cases found : (ObjectView.position a key o).1 with
    | error e =>
      rw [found] at answer
      cases answer
    | ok i =>
      rw [found] at answer
      exact ⟨i, rfl, answer⟩
  rw [(ListView.reads_of_sees shows sees.values few).item] at read
  cases at_i : (p.lists o.values.header.addr)[i]? with
  | none =>
    rw [at_i] at read
    cases read
  | some e =>
    rw [at_i] at read
    have decoded := ListView.decode_item shows at_i
    obtain rfl := Except.ok.inj (decoded.symm.trans read)
    exact ⟨i, e, position, at_i, (ListView.handleAt_item_addr shows at_i).symm⟩

/-- A statement that spares an object replaces no content of its keys. -/
theorem Replaces.spares (spares : c.Spares x (n, a)) (shows : a.Shows p)
    (names : n.Fits p) (few : p.writes < 0x10000000000000000)
    (at_x : p.heap x = some (.object k v)) {target : Handle} {content : HandleArg}
    (replaces : Replaces n a c target content) :
    ∀ e ∈ p.lists k, e.item ≠ target.addr := by
  obtain ⟨_, aims⟩ := spares k v ((Arena.hasLists_iff shows).mpr at_x)
  intro e member same
  obtain ⟨i, at_i⟩ := List.getElem?_of_mem member
  have item := Arena.hasItem_of_getElem? shows at_i
  rw [same] at item
  cases replaces with
  | setContent name arg content v x view found => exact aims target found item
  | setContentAt name index content v x view found =>
    refine aims target ?_ item
    simp only [aims?, view, Option.bind_some, found]
    rfl
  | setSlot name arg content o x view found => exact aims target found item
  | set name key content o x view found =>
    have sees := names.objects name o view
    obtain ⟨j, f, _, at_j, same'⟩ := slot_item shows sees few found
    -- The same item in a list of keys and in a list of values would make them one list.
    obtain ⟨together, _⟩ := shows.formed.apart k i e _ j f at_i at_j (same.trans same'.symm)
    obtain ⟨_, _, differ⟩ := shows.formed.object _ _ _ at_x
    rcases shows.formed.object_cases at_x sees.cell with ⟨_, _, values⟩ | ⟨_, _, other, _⟩
    · exact differ (together.trans values)
    · exact other together

/-- What a command has done to the object at `x` with these lists and keys, by its result. -/
inductive Alters (n : Names) (a b : Arena) (p q : Picture) (x k v : Addr) (keys : List String) :
    Command → Except Fault Answer → Prop
  | same (c : Command) (result : Except Fault Answer) (keyed : q.Keyed k v keys)
      (slots : q.lists v = p.lists v)
      (adds : ∀ name key o, c = .onObject name (.addKey key) → n.objects.find? name = some o →
        o.header.addr = x → ∃ e, result = .error e)
      (replaces : ∀ target content, Replaces n a c target content → ∃ e, result = .error e) :
      Alters n a b p q x k v keys c result
  | replaced (c : Command) (target content h kept) (replaces : Replaces n a c target content)
      (given : content.value? n = some h) (stores : a.Stores b h kept) (keyed : q.Keyed k v keys)
      (slots : q.lists v = (p.lists v).map (Entry.refill target.addr kept)) :
      Alters n a b p q x k v keys c (.ok .nothing)
  | added (name key o item) (view : n.objects.find? name = some o) (header : o.header.addr = x)
      (makes : a.Makes b item) (keyed : q.Keyed k v (keys ++ [key]))
      (slots : q.lists v = p.lists v ++ [⟨item.addr, .null⟩]) :
      Alters n a b p q x k v keys (.onObject name (.addKey key)) (.ok (.handle item))
  | alone (name key o e) (view : n.objects.find? name = some o) (header : o.header.addr = x)
      (keyed : q.Keyed k v (keys ++ [key])) (slots : q.lists v = p.lists v)
      (exhausted : b.Exhausted) :
      Alters n a b p q x k v keys (.onObject name (.addKey key)) (.error e)

/-- A command that replaces a content is a write, and adds no key. -/
theorem Replaces.writes {target : Handle} {content : HandleArg}
    (replaces : Replaces n a c target content) : c.writes = true := by
  cases replaces <;> rfl

/-- A key added to another object. -/
theorem alters_same_of_other (keyed : p.Keyed k v keys) (evolves : p.Evolves changes q)
    (at_k : q.lists k = p.lists k) (at_v : q.lists v = p.lists v)
    {name key : String} {o : ObjectView} (view : n.objects.find? name = some o)
    (other : o.header.addr ≠ x) (result : Except Fault Answer) :
    Alters n a b p q x k v keys (.onObject name (.addKey key)) result := by
  refine .same _ _ (keyed.stay evolves at_k (by rw [at_v])) at_v ?_ nofun
  intro _ _ o' eq view' header
  cases eq
  rw [view] at view'
  cases view'
  exact absurd header other

theorem alters_added (shows : a.Shows p) (sees : p.SeesObject o) {item : Handle} {e : Entry}
    (at_x : p.heap x = some (.object k v)) (keyed : p.Keyed k v keys) (shows_b : b.Shows q)
    (evolves : p.Evolves [.append o.keys.header.addr e,
      .append o.values.header.addr ⟨item.addr, .null⟩] q)
    (view : n.objects.find? name = some o) (entry : NewKey a b key e) (makes : a.Makes b item) :
    Alters n a b p q x k v keys (.onObject name (.addKey key)) (.ok (.handle item)) := by
  obtain ⟨_, _, differ⟩ := shows.formed.object _ _ _ at_x
  have at_k := evolves.lists k
  have at_v := evolves.lists v
  simp only [List.foldl_cons, List.foldl_nil] at at_k at_v
  rcases shows.formed.object_cases at_x sees.cell with
    ⟨header, same_k, same_v⟩ | ⟨other, k_k, k_v, v_k, v_v⟩
  · rw [same_k, same_v, on_append_self, on_append_other differ] at at_k
    rw [same_k, same_v, on_append_other differ.symm, on_append_self] at at_v
    have member : (q.lists k)[(p.lists k).length]? = some e := by
      rw [at_k]
      exact List.getElem?_concat_length
    exact .added name key o item view header makes
      (keyed.add evolves (entry.text_cell shows_b member) at_k at_v) at_v
  · rw [on_append_other k_k, on_append_other k_v] at at_k
    rw [on_append_other v_k, on_append_other v_v] at at_v
    exact alters_same_of_other keyed evolves at_k at_v view other _

theorem alters_alone (shows : a.Shows p) (sees : p.SeesObject o) {e : Entry} {fault : Fault}
    (at_x : p.heap x = some (.object k v)) (keyed : p.Keyed k v keys) (shows_b : b.Shows q)
    (evolves : p.Evolves [.append o.keys.header.addr e] q)
    (view : n.objects.find? name = some o) (entry : NewKey a b key e)
    (room : ∀ es fs, a.Represents o.keys.header.addr es →
      a.Represents o.values.header.addr fs → fs.length ≤ es.length →
      b.Exhausted ∧ a.lapses < b.lapses) :
    Alters n a b p q x k v keys (.onObject name (.addKey key)) (.error fault) := by
  obtain ⟨_, _, differ⟩ := shows.formed.object _ _ _ at_x
  have at_k := evolves.lists k
  have at_v := evolves.lists v
  simp only [List.foldl_cons, List.foldl_nil] at at_k at_v
  rcases shows.formed.object_cases at_x sees.cell with
    ⟨header, same_k, same_v⟩ | ⟨other, k_k, _, v_k, _⟩
  · obtain ⟨exhausted, more⟩ := room _ _ (shows.represents sees.keys.header)
      (shows.represents sees.values.header)
      (by rw [same_k, same_v, keyed.texts.length]; exact keyed.slots_le)
    rw [shows.lapses_eq, shows_b.lapses_eq] at more
    rw [same_k, on_append_self] at at_k
    rw [same_k, on_append_other differ.symm] at at_v
    have member : (q.lists k)[(p.lists k).length]? = some e := by
      rw [at_k]
      exact List.getElem?_concat_length
    have keyed_q := keyed.addAlone evolves (entry.text_cell shows_b member) at_k at_v more
    exact .alone name key o fault view header keyed_q at_v exhausted
  · rw [on_append_other k_k] at at_k
    rw [on_append_other v_k] at at_v
    exact alters_same_of_other keyed evolves at_k at_v view other _

/-- A command that spares an object does to it what it says, and nothing if it fails, unless a page
that may not be opened is lacking. -/
theorem Advances.alters (advances : Advances n a p c result m b q changes)
    (spares : c.Spares x (n, a)) (shows : a.Shows p) (names : n.Fits p)
    (few : p.writes < 0x10000000000000000) (at_x : p.heap x = some (.object k v))
    (keyed : p.Keyed k v keys) : Alters n a b p q x k v keys c result := by
  have evolves := advances.evolves
  have shows_b := advances.shows
  have spared : ∀ target content, Replaces n a c target content →
      ∀ e ∈ p.lists k, e.item ≠ target.addr :=
    fun _ _ replaces => replaces.spares spares shows names few at_x
  obtain ⟨extended, _⟩ := spares k v ((Arena.hasLists_iff shows).mpr at_x)
  -- What a command performs decides what it does to the two lists. Only adding a key to this very
  -- object makes them longer.
  have performs := advances.performs
  cases performs with
  | quiet _ _ reads =>
    refine .same _ _ (keyed.stay evolves (by rw [evolves.lists_eq])
      (by rw [evolves.lists_eq])) (by rw [evolves.lists_eq]) ?_ ?_
    · intro name key o same
      subst same
      cases reads
    · intro target content replaces
      rw [replaces.writes] at reads
      cases reads
  | failed _ e =>
    exact .same _ _ (keyed.stay evolves (by rw [evolves.lists_eq])
      (by rw [evolves.lists_eq])) (by rw [evolves.lists_eq]) (fun _ _ _ _ _ _ => ⟨e, rfl⟩)
      (fun _ _ _ => ⟨e, rfl⟩)
  | append name command content u h item kept form view given makes stores =>
    obtain ⟨not_k, not_v⟩ := extended u.header.addr (by simp only [extends?, form, view]; rfl)
    have at_k : q.lists k = p.lists k := by
      rw [evolves.lists]
      exact on_append_other not_k.symm _ _
    have at_v : q.lists v = p.lists v := by
      rw [evolves.lists]
      exact on_append_other not_v.symm _ _
    refine .same _ _ (keyed.stay evolves at_k (by rw [at_v])) at_v ?_ ?_
    · intro name key o eq
      cases eq
    · intro target argument replaces
      cases replaces <;> cases form
  | replace _ target content h kept replaces given stores =>
    have at_k : q.lists k = p.lists k := by
      rw [evolves.lists]
      exact on_replace_other (spared target content replaces) k kept
    have at_v : q.lists v = (p.lists v).map (Entry.refill target.addr kept) := evolves.lists v
    exact .replaced _ target content h kept replaces given stores
      (keyed.stay evolves at_k (by rw [at_v, List.length_map])) at_v
  | addKey name key o item e view entry makes room =>
    exact alters_added shows (names.objects name o view) at_x keyed shows_b evolves view entry makes
  | addKeyAlone name key o fault e view entry room =>
    exact alters_alone shows (names.objects name o view) at_x keyed shows_b evolves view entry room

theorem Alters.keyed (alters : Alters n a b p q x k v keys c result) :
    ∃ keys, q.Keyed k v keys := by
  cases alters with
  | same _ _ keyed => exact ⟨_, keyed⟩
  | replaced _ _ _ _ _ _ _ _ keyed => exact ⟨_, keyed⟩
  | added _ _ _ _ _ _ _ keyed => exact ⟨_, keyed⟩
  | alone _ _ _ _ _ _ keyed => exact ⟨_, keyed⟩

/-- A list that was not there before has no entries. -/
theorem Advances.lists_new (advances : Advances n a p c result m b q changes) (shows : a.Shows p)
    (names : n.Fits p) {l : Addr} (fresh : p.heap l = none) : q.lists l = [] := by
  have unlisted := Heap.not_isList_of_fresh fresh
  rw [advances.evolves.lists, shows.formed.unlisted l unlisted]
  exact advances.performs.unlisted names unlisted

/-- A new object has no keys. -/
theorem Advances.inStep (advances : Advances n a p c result m b q changes)
    (spares : c.Spares x (n, a)) (shows : a.Shows p) (names : n.Fits p)
    (few : p.writes < 0x10000000000000000) (inStep : p.InStep x) : q.InStep x := by
  intro k v at_x
  rcases advances.evolves.objects x k v at_x with before | ⟨new_k, new_v⟩
  · obtain ⟨keys, keyed⟩ := inStep k v before
    exact (advances.alters spares shows names few before keyed).keyed
  · have none := advances.lists_new shows names new_v
    refine ⟨[], ?_, by rw [none]; exact Nat.le_refl 0, Nat.zero_le _⟩
    rw [advances.lists_new shows names new_k]
    rfl

end Command

/-- A view that is kept is one of an object of the arena. -/
theorem Statement.starts_of_view (r : Registry T) (config : Config) {program : List Statement}
    (allowed : ∀ s ∈ program, s.command.isPublic = true) {name : String} {o : ObjectView}
    (found : (after r config program).1.objects.find? name = some o) :
    (after r config program).2.Starts .object o.header.addr := by
  obtain ⟨p, shows, names, _⟩ := after_shows r config allowed
  exact (Arena.starts_iff shows.holds).mpr ⟨_, (names.objects name o found).cell, rfl⟩

/-- After a program that spares the object at an address, its lists are in step. -/
theorem Statement.inStep_after (r : Registry T) (config : Config) (x : Addr)
    {program : List Statement} (allowed : ∀ s ∈ program, s.command.isPublic = true)
    (few : listWrites r program (.empty, .empty config) < 0x10000000000000000)
    (spared : Throughout r (fun state s => s.command.Spares x state) program
      (.empty, .empty config)) :
    ∃ p, (after r config program).2.Shows p ∧ (after r config program).1.Fits p ∧
      p.writes < 0x10000000000000000 ∧ p.InStep x := by
  obtain ⟨p, shows, names, writes, inStep⟩ := after_keeps r config 0x10000000000000000
    (Picture.InStep · x) (fun _ _ _ _ _ _ _ _ _ shows names few spares advances inStep =>
      advances.inStep spares shows names few inStep) allowed few spared nofun
  exact ⟨p, shows, names, by omega, inStep⟩

end ValueArena
