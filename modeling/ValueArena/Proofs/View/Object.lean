import ValueArena.Collection.ObjectView
import ValueArena.Proofs.Picture.Quiet
import ValueArena.Proofs.View.List

/-!
Views of objects: views of the two lists of one object. Reads through them and the operations that
change an object keep them so.
-/
namespace ValueArena

structure Picture.SeesObject (p : Picture) (o : ObjectView) : Prop where
  cell : p.heap o.header.addr = some (.object o.keys.header.addr o.values.header.addr)
  named : p.heap.Issued o.handle
  keys : p.Sees o.keys
  values : p.Sees o.values

/-- The view that opening an object gives. -/
def Picture.objectView (p : Picture) (header keys values : Descriptor) : ObjectView :=
  ⟨header, p.view keys, p.view values⟩

/-- The step ends in a state that satisfies `inv`, and what it returns fits. -/
def Step.EndsWith (inv : σ → Prop) (fits : α → Prop) (x : Step ε σ α) (s : σ) : Prop :=
  inv (x s).2 ∧ ∀ v, (x s).1 = .ok v → fits v

theorem Step.EndsWith.bind {inv : σ → Prop} {fits : α → Prop} {fits' : β → Prop} {x : Step ε σ α}
    {f : α → Step ε σ β} {s : σ} (first : EndsWith inv fits x s)
    (second : ∀ v t, inv t → fits v → EndsWith inv fits' (f v) t) :
    EndsWith inv fits' (x >>= f) s := by
  obtain ⟨keeps, fit⟩ := first
  obtain ⟨result, t, ran⟩ : ∃ result t, x s = (result, t) := ⟨_, _, rfl⟩
  rw [ran] at keeps fit
  cases result with
  | error e =>
    rw [EndsWith, Step.bind_error ran]
    exact ⟨keeps, nofun⟩
  | ok v =>
    rw [EndsWith, Step.bind_ok ran]
    exact second v t keeps (fit v rfl)

namespace ListView

variable {a : Arena} {p : Picture} {v : ListView}

theorem read_sees (shows : a.Shows p) (sees : p.Sees v) (f : ListView → Except MemoryError α) :
    ∃ u, (ensureFresh a >>= fun _ => Step.view f) v = (f u, u) ∧ p.Sees u ∧ u.header = v.header ∧
      (p.writes < 0x10000000000000000 → u = p.view v.header) := by
  obtain ⟨u, fresh, sees_u, header⟩ := ensureFresh_sees shows sees
  refine ⟨u, read_apply fresh f, sees_u, header, ?_⟩
  · intro small
    rw [ensureFresh_ok shows sees small] at fresh
    exact (Prod.mk.inj fresh).2.symm

/-- A read that answers with a handle answers with one of the arena. -/
theorem read_endsWith (shows : a.Shows p) (sees : p.Sees v) {f : ListView → Except MemoryError α}
    {fits : α → Prop} (fit : ∀ u, p.Sees u → ∀ h, f u = .ok h → fits h) :
    Step.EndsWith (fun u => p.Sees u ∧ u.header = v.header) fits
      (ensureFresh a >>= fun _ => Step.view f) v := by
  obtain ⟨u, ran, sees_u, header, _⟩ := read_sees shows sees f
  rw [Step.EndsWith, ran]
  exact ⟨⟨sees_u, header⟩, fit u sees_u⟩

theorem item_endsWith (shows : a.Shows p) (sees : p.Sees v) (index : Nat) :
    Step.EndsWith (fun u => p.Sees u ∧ u.header = v.header) p.heap.Issued
      (ListView.item a index) v := by
  apply read_endsWith shows sees
  intro u sees_u h looked
  split at looked
  case h_1 h' found =>
    cases looked
    exact sees_u.items h (Array.mem_of_getElem? found)
  case h_2 => cases looked

theorem get_endsWith (shows : a.Shows p) (sees : p.Sees v) (index : Nat) :
    Step.EndsWith (fun u => p.Sees u ∧ u.header = v.header) p.heap.Issued
      (ListView.get a index) v := by
  apply read_endsWith shows sees
  intro u sees_u h looked
  split at looked
  case h_1 h' found =>
    cases looked
    exact sees_u.values h (Array.mem_of_getElem? found)
  case h_2 => cases looked

end ListView

namespace ObjectView

variable {a b : Arena} {p q : Picture} {o : ObjectView} {changes : List Change}

theorem sees_evolves (sees : p.SeesObject o) (evolves : p.Evolves changes q)
    (formed : p.heap.Formed p.lists) (null : q.heap .null = none) : q.SeesObject o :=
  ⟨evolves.grows.kept sees.cell rfl, sees.named.grows evolves.grows null,
    sees.keys.evolves evolves formed null, sees.values.evolves evolves formed null⟩

theorem onKeys_endsWith {x : Step MemoryError ListView α} {fits : α → Prop}
    (sees : p.SeesObject o)
    (ends : Step.EndsWith (fun u => p.Sees u ∧ u.header = o.keys.header) fits x o.keys) :
    Step.EndsWith (fun u => p.SeesObject u ∧ u.header = o.header) fits (onKeys x) o := by
  obtain ⟨⟨sees_u, header⟩, fit⟩ := ends
  refine ⟨⟨⟨?_, sees.named, sees_u, sees.values⟩, rfl⟩, fit⟩
  change p.heap o.header.addr = some (.object (x o.keys).2.header.addr o.values.header.addr)
  rw [header]
  exact sees.cell

theorem onValues_endsWith {x : Step MemoryError ListView α} {fits : α → Prop}
    (sees : p.SeesObject o)
    (ends : Step.EndsWith (fun u => p.Sees u ∧ u.header = o.values.header) fits x o.values) :
    Step.EndsWith (fun u => p.SeesObject u ∧ u.header = o.header) fits (onValues x) o := by
  obtain ⟨⟨sees_u, header⟩, fit⟩ := ends
  refine ⟨⟨⟨?_, sees.named, sees.keys, sees_u⟩, rfl⟩, fit⟩
  change p.heap o.header.addr = some (.object o.keys.header.addr (x o.values).2.header.addr)
  rw [header]
  exact sees.cell

theorem indexOf_endsWith (shows : a.Shows p) (sees : p.SeesObject o) (key : String) :
    Step.EndsWith (fun u => p.SeesObject u ∧ u.header = o.header) (fun _ => True)
      (indexOf a key) o :=
  onKeys_endsWith sees (ListView.read_endsWith shows sees.keys fun _ _ _ _ => trivial)

theorem position_endsWith (shows : a.Shows p) (sees : p.SeesObject o) (key : String) :
    Step.EndsWith (fun u => p.SeesObject u ∧ u.header = o.header) (fun _ => True)
      (position a key) o := by
  apply (indexOf_endsWith shows sees key).bind
  rintro (_ | index) u keeps _
  · exact ⟨keeps, nofun⟩
  · exact ⟨keeps, fun _ _ => trivial⟩

theorem hasKey_endsWith (shows : a.Shows p) (sees : p.SeesObject o) (key : String) :
    Step.EndsWith (fun u => p.SeesObject u ∧ u.header = o.header) (fun _ => True)
      (hasKey a key) o :=
  (indexOf_endsWith shows sees key).bind fun _ _ keeps _ => ⟨keeps, fun _ _ => trivial⟩

theorem slot_endsWith (shows : a.Shows p) (sees : p.SeesObject o) (key : String) :
    Step.EndsWith (fun u => p.SeesObject u ∧ u.header = o.header) p.heap.Issued
      (slot a key) o := by
  apply (position_endsWith shows sees key).bind
  intro index u given _
  obtain ⟨sees_u, header⟩ := given
  rw [← header]
  exact onValues_endsWith sees_u (ListView.item_endsWith shows sees_u.values index)

theorem get_endsWith (shows : a.Shows p) (sees : p.SeesObject o) (key : String) :
    Step.EndsWith (fun u => p.SeesObject u ∧ u.header = o.header) p.heap.Issued
      (get a key) o := by
  apply (position_endsWith shows sees key).bind
  intro index u given _
  obtain ⟨sees_u, header⟩ := given
  rw [← header]
  exact onValues_endsWith sees_u (ListView.get_endsWith shows sees_u.values index)

/-- Opening an object gives up-to-date views of its lists. -/
theorem ofHandle_of_require (shows : a.Shows p) {h : Handle} {header : Descriptor}
    (issued : p.heap.Issued h) (required : h.require .object = .ok header) :
    ∃ keys values, ofHandle a h = .ok (p.objectView header keys values) ∧
      p.SeesObject (p.objectView header keys values) := by
  obtain ⟨c, found, kind, rfl, _⟩ := issued.require required
  obtain ⟨k, v, rfl⟩ := Cell.eq_object_of_kind kind
  obtain ⟨keys_list, values_list, _⟩ := shows.formed.object header.addr k v found
  obtain ⟨keys, rfl, decoded_keys, opened_keys, sees_keys⟩ :=
    ListView.ofHandle_of_isList shows keys_list
  obtain ⟨values, rfl, decoded_values, opened_values, sees_values⟩ :=
    ListView.ofHandle_of_isList shows values_list
  refine ⟨keys, values, ?_, found, issued, sees_keys, sees_values⟩
  rw [ofHandle, required]
  simp only [bind, Except.bind, Arena.load_objectKeys (shows.holds.lies found),
    Arena.load_objectValues (shows.holds.lies found), decoded_keys, decoded_values, opened_keys,
    opened_values]
  rfl

theorem ofHandle_cases (shows : a.Shows p) {h : Handle} (issued : p.heap.Issued h) :
    (∃ e, ofHandle a h = .error e) ∨
      ∃ header keys values, ofHandle a h = .ok (p.objectView header keys values) ∧
        p.SeesObject (p.objectView header keys values) := by
  cases required : h.require .object with
  | error e =>
    refine .inl ⟨e, ?_⟩
    rw [ofHandle, required]
    rfl
  | ok header =>
    obtain ⟨keys, values, opened, sees⟩ := ofHandle_of_require shows issued required
    exact .inr ⟨header, keys, values, opened, sees⟩

theorem changingKeys_apply {x : ListStep α} {u : ListView} {result : Except MemoryError α}
    (ran : x (o.keys, a) = (result, (u, b))) :
    changingKeys x (o, a) = (result, ({ o with keys := u }, b)) := by
  simp only [changingKeys, Step.within, ran]

theorem changingValues_apply {x : ListStep α} {u : ListView} {result : Except MemoryError α}
    (ran : x (o.values, a) = (result, (u, b))) :
    changingValues x (o, a) = (result, ({ o with values := u }, b)) := by
  simp only [changingValues, Step.within, ran]

theorem reading_apply {x : Arena → Step MemoryError ObjectView α} {u : ObjectView}
    {result : Except MemoryError α} (ran : x a o = (result, u)) :
    reading x (o, a) = (result, (u, a)) := by simp only [reading, ran]

/-- A slot takes another content, or nothing changes. -/
theorem setSlot_cases (shows : a.Shows p) (sees : p.SeesObject o) {item content : Handle}
    (issued_item : p.heap.Issued item) (issued : p.heap.Issued content) :
    (∃ e, setSlot item content (o, a) = (.error e, (o, a)) ∧ a.Unfilled item content e) ∨
      ∃ kept b q u, setSlot item content (o, a) = (.ok (), (u, b)) ∧
        Arena.Refilled p content item.addr kept b q ∧ q.SeesObject u ∧ u.header = o.header := by
  rcases ListView.setContent_cases shows sees.values issued_item issued with
    ⟨e, failed, cause⟩ | ⟨kept, b, q, replaced, refills, sees_q⟩
  · exact .inl ⟨e, changingValues_apply failed, cause⟩
  · have after := sees_evolves sees refills.evolves shows.formed refills.shows.formed.null
    exact .inr ⟨kept, b, q, _, changingValues_apply replaced, refills,
      ⟨after.cell, after.named, after.keys, sees_q⟩, rfl⟩

/-- Looking for a key is a search of the keys, and leaves the view of the values alone. -/
theorem position_apply (a : Arena) (key : String) (o : ObjectView) :
    (position a key o).1 = (match (ListView.indexOfText a key o.keys).1 with
      | .ok (some index) => .ok index
      | .ok none => .error (.keyNotFound key)
      | .error e => .error e) ∧
    (position a key o).2.keys = (ListView.indexOfText a key o.keys).2 ∧
    (position a key o).2.values = o.values := by
  obtain ⟨result, u, ran⟩ : ∃ result u, ListView.indexOfText a key o.keys = (result, u) :=
    ⟨_, _, rfl⟩
  have indexed : indexOf a key o = (result, { o with keys := u }) := by
    simp only [indexOf, onKeys, Step.within, ran]
  rw [ran]
  cases result with
  | error e =>
    rw [position, Step.bind_error indexed]
    exact ⟨rfl, rfl, rfl⟩
  | ok index =>
    rw [position, Step.bind_ok indexed]
    cases index with
    | none => exact ⟨rfl, rfl, rfl⟩
    | some index => exact ⟨rfl, rfl, rfl⟩

theorem hasKey_apply (a : Arena) (key : String) (o : ObjectView) :
    (hasKey a key o).1 = (ListView.indexOfText a key o.keys).1.map Option.isSome := by
  obtain ⟨result, u, ran⟩ : ∃ result u, ListView.indexOfText a key o.keys = (result, u) :=
    ⟨_, _, rfl⟩
  have indexed : indexOf a key o = (result, { o with keys := u }) := by
    simp only [indexOf, onKeys, Step.within, ran]
  rw [ran, hasKey, Step.bind_pure_apply indexed]

/-- What is under a key is read from the values at the position of the key. -/
theorem atPosition_apply (a : Arena) (key : String) (x : Nat → Step MemoryError ListView α)
    (o : ObjectView) : ((position a key >>= fun index => onValues (x index)) o).1 =
      (position a key o).1.bind fun index => (x index o.values).1 := by
  obtain ⟨_, _, values⟩ := position_apply a key o
  obtain ⟨result, u, ran⟩ : ∃ result u, position a key o = (result, u) := ⟨_, _, rfl⟩
  rw [ran] at values ⊢
  cases result with
  | error e =>
    rw [Step.bind_error ran]
    rfl
  | ok index =>
    rw [Step.bind_ok ran, ← values]
    rfl

theorem slot_apply (a : Arena) (key : String) (o : ObjectView) : (slot a key o).1 =
    (position a key o).1.bind fun index => (ListView.item a index o.values).1 :=
  atPosition_apply a key (ListView.item a) o

theorem get_apply (a : Arena) (key : String) (o : ObjectView) : (get a key o).1 =
    (position a key o).1.bind fun index => (ListView.get a index o.values).1 :=
  atPosition_apply a key (ListView.get a) o

/-- The slot of a key takes another content, or nothing changes. -/
theorem set_cases (shows : a.Shows p) (sees : p.SeesObject o) (key : String) {content : Handle}
    (issued : p.heap.Issued content) :
    (∃ e u, set key content (o, a) = (.error e, (u, a)) ∧ p.SeesObject u ∧ u.header = o.header ∧
      ((slot a key o).1 = .error e ∨
        ∃ target, (slot a key o).1 = .ok target ∧ a.Unfilled target content e)) ∨
    ∃ target kept b q u, set key content (o, a) = (.ok (), (u, b)) ∧
      Arena.Refilled p content target.addr kept b q ∧ q.SeesObject u ∧ u.header = o.header ∧
      (slot a key o).1 = .ok target ∧ u.values = q.view o.values.header ∧
      (o.keys.Current a p → u.keys.Current b q) := by
  obtain ⟨⟨sees_u, header⟩, _⟩ := position_endsWith shows sees key
  obtain ⟨_, keys, values⟩ := position_apply a key o
  obtain ⟨result, u, ran⟩ : ∃ result u, position a key o = (result, u) := ⟨_, _, rfl⟩
  have looked := reading_apply (x := fun a => position a key) ran
  rw [ran] at sees_u header keys values
  change u.values = o.values at values
  change u.keys = _ at keys
  cases result with
  | error e =>
    have unslotted : (slot a key o).1 = .error e := by rw [slot, Step.bind_error ran]
    exact .inl ⟨e, u, Step.bind_error looked, sees_u, header, .inl unslotted⟩
  | ok index =>
    have found : (slot a key o).1 = (ListView.item a index u.values).1 := by
      rw [slot, Step.bind_ok ran]
      rfl
    rcases ListView.setContentAt_cases shows sees_u.values index issued with
      ⟨e, v, failed, sees_v, header_v, cause⟩ |
      ⟨target, kept, b, q, replaced, refills, sees_q, answer⟩
    · refine .inl ⟨e, _, (Step.bind_ok looked).trans (changingValues_apply failed), ?_, header, ?_⟩
      · refine ⟨?_, sees_u.named, sees_u.keys, sees_v⟩
        rw [header_v]
        exact sees_u.cell
      · rw [found]
        exact cause
    · have after := sees_evolves sees_u refills.evolves shows.formed refills.shows.formed.null
      refine .inr ⟨target, kept, b, q, _,
        (Step.bind_ok looked).trans (changingValues_apply replaced), refills,
        ⟨after.cell, after.named, after.keys, sees_q⟩, header, ?_, by rw [values], ?_⟩
      · exact found.trans answer
      · intro current
        have searched := ListView.ensureFresh_current shows sees.keys.header current
        have answered : ListView.indexOfText a key o.keys = _ := ListView.read_apply searched _
        change u.keys.Current b q
        rw [keys, answered]
        exact ListView.current_of_view shows refills.shows refills.evolves (by simp)

/-- A new text and a new item that holds it. -/
structure KeyEntry (p q : Picture) (key : String) (e : Entry) : Prop where
  text : q.heap e.content = some (.plain (.string key))
  text_fresh : p.heap e.content = none
  item : ∃ c, q.heap e.item = some c ∧ c.kind = .listItem
  item_fresh : p.heap e.item = none

theorem KeyEntry.grows {p q t : Picture} {key : String} {e : Entry} (entry : KeyEntry p q key e)
    (grows : q.heap.Grows t.heap) : KeyEntry p t key e := by
  obtain ⟨c, found, kind⟩ := entry.item
  obtain ⟨d, found', becomes⟩ := grows e.item c found
  exact ⟨grows.kept entry.text rfl, entry.text_fresh, ⟨d, found', becomes.kind.trans kind⟩,
    entry.item_fresh⟩

/-- A key and its empty slot have been added. -/
structure KeyAdded (a : Arena) (p : Picture) (o : ObjectView) (key : String) (item : Handle)
    (u : ObjectView) (b : Arena) (q : Picture) : Prop where
  shows : b.Shows q
  sees : q.SeesObject u
  header : u.header = o.header
  entry : ∃ e, KeyEntry p q key e ∧ p.Evolves [.append o.keys.header.addr e,
    .append o.values.header.addr ⟨item.addr, .null⟩] q
  fresh : p.heap item.addr = none
  cell : ∃ c, q.heap item.addr = some c
  handle : item = q.heap.handleAt item.addr
  stays : ∀ x c, p.heap x = some c → p.Apart o.keys.header.addr x →
    p.Apart o.values.header.addr x → q.heap x = some c
  keys_view : o.keys.Current a p → u.keys.Current b q
  values_view : o.values = p.view o.values.header → u.values = q.view o.values.header
  /-- If there was no room for an item to begin with, the text of the key has opened a page. -/
  room : p.room.Exhausted Arena.itemLength → p.room.pages < q.room.pages

/-- A key has been added without its slot. -/
structure KeyAlone (p : Picture) (o : ObjectView) (key : String) (q : Picture) : Prop where
  entry : ∃ e, KeyEntry p q key e ∧ p.Evolves [.append o.keys.header.addr e] q
  room : (p.lists o.values.header.addr).length ≤ (p.lists o.keys.header.addr).length →
    q.room.Exhausted Arena.itemLength ∧
      p.room.lapses Arena.itemLength < q.room.lapses Arena.itemLength

theorem string_length (v : String) :
    (Cell.plain (.string v)).bytes.length = 5 + (Utf8.encode v).length := by
  simp only [Cell.bytes_length, Cell.payload, Content.payload, List.length_append,
    FixedWidth.length_encode]
  change 4 + _ + 1 = _
  omega

/-- Whoever lacks room for an item that was checked lacks a page that may be opened. -/
theorem exhausted_of_lacksRoom (shows : a.Shows p) {l : Addr} (list : p.heap.IsList l)
    (fits : a.store.room.wouldFit [Arena.itemLength] = true) {d : Descriptor} {length : Nat}
    (short : length < 0xFFFFFFFF) (lacks : a.LacksRoom (.stored d) length) :
    a.store.room.Exhausted Arena.itemLength := by
  obtain ⟨_, _, _, at_l⟩ := list
  have size : a.store.room.config.pageSize ≤ 0xFFFFFFFF := (shows.holds.lies at_l).pageSize_le
  rcases lacks with long | unfit | refused
  · omega
  · rw [Arena.wouldFit_appendLengths] at unfit
    exact absurd fits (by rw [PageStore.Room.wouldFit]; exact ne_true_of_eq_false unfit)
  · have item : Arena.itemLength = 17 := rfl
    have refused := (PageStore.Room.reserveAll_single ..).symm.trans refused
    exact PageStore.Room.exhausted_of_reserve a.store.room_remaining (.inr (by decide)) (by omega)
      fits refused

/-- The count of a list that has an entry fits its field, so the list before had less. -/
theorem length_lt_of_appended {l : Addr} {content item kept : Handle} (list : p.heap.IsList l)
    (appends : a.Appended p l content item kept b q) : (p.lists l).length < 0xFFFFFFFF := by
  obtain ⟨first, last, count, at_l⟩ := appends.evolves.grows.isList list
  obtain ⟨_, _, length⟩ := appends.shows.formed.header l first last count at_l
  have bound := count.toNat_lt
  rw [appends.evolves.lists] at length
  simp only [List.foldl_cons, List.foldl_nil, Change.on, if_true, List.length_append,
    List.length_singleton] at length
  omega

/-- A list takes a stored value as it is. -/
theorem kept_eq_of_string {before after : Heap} {kept : Handle} {size : UInt32} {addr : Addr}
    (keeps : Keeps before after kept (.stored ⟨.string, size, addr⟩)) :
    kept = .stored ⟨.string, size, addr⟩ := keeps

/-- The part of adding a key that comes before its slot. -/
def addName (key : String) : ObjectStep Handle := do
  let length := 5 + (Utf8.encode key).length
  .onSecond <| .view fun a =>
    if a.store.wouldFit [length, Arena.itemLength, Arena.itemLength] then .ok ()
    else .error (.allocationFailed (length + 2 * Arena.itemLength) a.spaceOccupied)
  let text ← .onSecond (Arena.createString key)
  changingKeys (ListView.append text)

theorem addKey_eq (key : String) :
    addKey key = addName key >>= fun _ => changingValues ListView.appendEmpty := by
  simp only [addKey, addName, bind_assoc]

/-- A key has been added and its slot is to follow. -/
structure NameAdded (a : Arena) (p : Picture) (o : ObjectView) (key : String) (u : ObjectView)
    (b : Arena) (q : Picture) : Prop where
  shows : b.Shows q
  sees : q.SeesObject u
  header : u.header = o.header
  values : u.values = o.values
  entry : ∃ e, KeyEntry p q key e ∧ p.Evolves [.append o.keys.header.addr e] q
  stays : ∀ x c, p.heap x = some c → p.Apart o.keys.header.addr x → q.heap x = some c
  keys_view : o.keys.Current a p → u.keys = q.view o.keys.header
  checked : a.store.wouldFit
    [5 + (Utf8.encode key).length, Arena.itemLength, Arena.itemLength] = true
  served : a.store.room.reserveAll [5 + (Utf8.encode key).length, Arena.itemLength] =
    some b.store.room
  fits : b.store.room.wouldFit [Arena.itemLength] = true
  short : (p.lists o.keys.header.addr).length < 0xFFFFFFFF

/-- Once the name has its text and its item, what was checked leaves room for the slot. -/
theorem nameAdded_of_appended (shows : a.Shows p) (sees : p.SeesObject o) {key : String}
    {text name kept : Handle} {a₁ : Arena} {q₁ : Picture} {u : ListView}
    (fits : a.store.wouldFit
      [5 + (Utf8.encode key).length, Arena.itemLength, Arena.itemLength] = true)
    (creates : Arena.Creates a p.heap (.plain (.string key)) text a₁) (shows₁ : a₁.Shows q₁)
    (evolves₁ : p.Evolves [] q₁) (at_text : q₁.heap text.addr = some (.plain (.string key)))
    (cells : ∀ x c, p.heap x = some c → q₁.heap x = some c)
    (appends : a₁.Appended q₁ o.keys.header.addr text name kept b q) (sees_u : q.Sees u)
    (header : u.header = o.keys.header)
    (now : o.keys.Current a₁ q₁ → u = q.view o.keys.header) :
    NameAdded a p o key { o with keys := u } b q := by
  have stored := creates.handle
  have keeps := appends.keeps
  rw [stored] at keeps
  have named := congrArg Handle.addr (kept_eq_of_string keeps)
  have same : kept.addr = text.addr := named
  have text_served := creates.room
  have item_served := appends.room
  rw [string_length] at text_served
  rw [stored, Arena.appendLengths, Arena.promotion, List.nil_append,
    PageStore.Room.reserveAll_single] at item_served
  have sees₁ := sees_evolves sees evolves₁ shows.formed shows₁.formed.null
  have sees₂ := sees_evolves sees₁ appends.evolves shows₁.formed appends.shows.formed.null
  refine ⟨appends.shows, ⟨by rw [header]; exact sees₂.cell, sees₂.named, sees_u, sees₂.values⟩,
    rfl, rfl, ⟨_, ⟨?_, ?_, ⟨_, appends.cell, rfl⟩, evolves₁.fresh appends.fresh⟩,
      evolves₁.quiet_trans appends.evolves⟩, ?_, ?_, fits, ?_, ?_, ?_⟩
  · rw [same]
    exact appends.evolves.grows.kept at_text rfl
  · rw [same]
    exact creates.fresh
  · intro x c found apart
    rw [Picture.Apart, ← evolves₁.lists_eq] at apart
    exact appends.stays x c (cells x c found) apart
  · exact fun current => now (current.quiet shows shows₁ evolves₁)
  · rw [PageStore.Room.reserveAll, text_served, Option.bind_some,
      PageStore.Room.reserveAll_single]
    exact item_served
  · have fits₁ : a₁.store.room.wouldFit [Arena.itemLength, Arena.itemLength] = true :=
      PageStore.Room.wouldFit_of_reserve a.store.room_remaining (.inr (by omega)) fits text_served
    exact PageStore.Room.wouldFit_of_reserve a₁.store.room_remaining (.inr (by decide)) fits₁
      item_served
  · have short := length_lt_of_appended sees₁.keys.header appends
    rw [evolves₁.lists_eq] at short
    exact short

theorem addName_cases (shows : a.Shows p) (sees : p.SeesObject o) (key : String) :
    (∃ n m b q, addName key (o, a) = (.error (.allocationFailed n m), (o, b)) ∧ b.Shows q ∧
      p.Evolves [] q) ∨
    ∃ name u b q, addName key (o, a) = (.ok name, (u, b)) ∧ NameAdded a p o key u b q := by
  cases fits : a.store.wouldFit [5 + (Utf8.encode key).length, Arena.itemLength,
      Arena.itemLength] with
  | false =>
    refine .inl ⟨5 + (Utf8.encode key).length + 2 * Arena.itemLength, a.spaceOccupied, a, p, ?_,
      shows, .refl p⟩
    refine Step.bind_error (Step.onSecond_apply ?_)
    simp only [Step.view_apply, fits, Bool.false_eq_true, if_false]
  | true =>
    have checked : (Step.view fun a : Arena =>
        if a.store.wouldFit [5 + (Utf8.encode key).length, Arena.itemLength, Arena.itemLength] then
          .ok ()
        else .error (MemoryError.allocationFailed
          (5 + (Utf8.encode key).length + 2 * Arena.itemLength) a.spaceOccupied)) a =
        (.ok (), a) := by
      simp only [Step.view_apply, fits, if_true]
    rcases Arena.createString_cases shows.holds.bounded key with
      ⟨n, m, failed, _⟩ | ⟨text, a₁, made, adds⟩
    · refine .inl ⟨n, m, a, p, ?_, shows, .refl p⟩
      apply (Step.bind_ok (Step.onSecond_apply checked)).trans
      exact Step.bind_error (Step.onSecond_apply failed)
    · have creates := adds.creates shows.holds
      obtain ⟨shows₁, evolves₁⟩ := shows.create creates
      have sees₁ := sees_evolves sees evolves₁ shows.formed shows₁.formed.null
      rcases ListView.append_cases shows₁ sees₁.keys creates.issued with
        ⟨n, m, b, q, failed, shows_q, evolves, _⟩ |
        ⟨name, kept, b, q, u, appended, appends, sees_u, header, now⟩
      · refine .inl ⟨n, m, b, q, ?_, shows_q, evolves₁.trans_quiet evolves⟩
        apply (Step.bind_ok (Step.onSecond_apply checked)).trans
        apply (Step.bind_ok (Step.onSecond_apply made)).trans
        exact changingKeys_apply failed
      · refine .inr ⟨name, { o with keys := u }, b, q, ?_, nameAdded_of_appended shows sees fits
          creates shows₁ evolves₁ (Heap.put_self ..)
          (fun _ _ found => Heap.put_fresh creates.fresh found _) appends sees_u header now⟩
        apply (Step.bind_ok (Step.onSecond_apply checked)).trans
        apply (Step.bind_ok (Step.onSecond_apply made)).trans
        exact changingKeys_apply appended

/-- The list of slots is still as it was. -/
theorem NameAdded.slots_eq {key : String} {u : ObjectView} (adds : NameAdded a p o key u b q)
    (shows : a.Shows p) (sees : p.SeesObject o) :
    q.lists o.values.header.addr = p.lists o.values.header.addr := by
  obtain ⟨_, _, begun⟩ := adds.entry
  have differ := (shows.formed.object _ _ _ sees.cell).2.2
  rw [begun.lists]
  simp [Change.on, Ne.symm differ]

/-- In between there was room for the name's item. -/
theorem NameAdded.room {key : String} {u : ObjectView} (adds : NameAdded a p o key u b q)
    (shows : a.Shows p) :
    ∃ r, p.room.Leads r ∧ ¬ r.Exhausted Arena.itemLength ∧ r.Leads b.store.room := by
  have served := adds.served
  simp only [PageStore.Room.reserveAll, Option.bind_eq_some_iff, Option.some.injEq] at served
  obtain ⟨r, text_served, _, item_served, rfl⟩ := served
  rw [← shows.room]
  refine ⟨r, PageStore.Room.leads_of_reserve text_served, ?_,
    PageStore.Room.leads_of_reserve item_served⟩
  intro exhausted
  rw [exhausted.reserve] at item_served
  cases item_served

/-- Room for the slot was checked with the key's, so all that can be lacking is a page. -/
theorem NameAdded.keyAlone {key : String} {u : ObjectView} {c : Arena} {t : Picture}
    {d : Descriptor} (adds : NameAdded a p o key u b q) (shows : a.Shows p) (sees : p.SeesObject o)
    (shows_c : c.Shows t) (evolves : q.Evolves [] t)
    (without : b.Unappended (.stored d) (q.lists u.values.header.addr).length c) :
    KeyAlone p o key t := by
  obtain ⟨e, key_entry, begun⟩ := adds.entry
  refine ⟨⟨e, key_entry.grows evolves.grows, begun.trans_quiet evolves⟩, ?_⟩
  intro le
  have short := adds.short
  have exhausted := exhausted_of_lacksRoom adds.shows adds.sees.values.header adds.fits
    (by rw [adds.values, adds.slots_eq shows sees]; omega) without.lacks
  have same : t.room = b.store.room := shows_c.room.symm.trans (without.room rfl)
  obtain ⟨r, leads, room, leads'⟩ := adds.room shows
  rw [same]
  exact ⟨exhausted, Nat.lt_of_le_of_lt (leads.lapses_le _) (leads'.lapses_lt room exhausted)⟩

/-- The room for the name's item was there before, or on a page opened since. -/
theorem NameAdded.pages_lt {key : String} {u : ObjectView} (adds : NameAdded a p o key u b q)
    (shows : a.Shows p) (exhausted : p.room.Exhausted Arena.itemLength) :
    p.room.pages < q.room.pages := by
  obtain ⟨r, leads, room, leads'⟩ := adds.room shows
  rw [← adds.shows.room]
  rcases Nat.lt_or_eq_of_le leads.pages with more | same
  · exact Nat.lt_of_lt_of_le more leads'.pages
  · exact absurd (exhausted.leads leads same) room

/-- A name and then its slot are a key. -/
theorem NameAdded.keyAdded {key : String} {u : ObjectView} {item : Handle} {w : ListView}
    {c : Arena} {t : Picture} (adds : NameAdded a p o key u b q) (shows : a.Shows p)
    (sees : p.SeesObject o) (slots : b.Appended q u.values.header.addr .none item .none c t)
    (sees_w : t.Sees w) (header : w.header = u.values.header)
    (now : u.values.Current b q → w = t.view u.values.header) :
    KeyAdded a p o key item { u with values := w } c t := by
  obtain ⟨e, key_entry, begun⟩ := adds.entry
  have after := sees_evolves adds.sees slots.evolves adds.shows.formed slots.shows.formed.null
  have evolves := begun.trans slots.evolves
  have stays := slots.stays
  rw [adds.values] at evolves header stays now
  constructor
  case shows => exact slots.shows
  case sees =>
    refine ⟨?_, after.named, after.keys, sees_w⟩
    rw [header, ← adds.values]
    exact after.cell
  case header => exact adds.header
  case entry => exact ⟨e, key_entry.grows slots.evolves.grows, evolves⟩
  case fresh => exact begun.fresh slots.fresh
  case cell => exact ⟨_, slots.cell⟩
  case handle => exact slots.item_handle
  case stays =>
    intro x c found apart_keys apart_values
    rw [Picture.Apart, ← adds.slots_eq shows sees] at apart_values
    exact stays x c (adds.stays x c found apart_keys) apart_values
  case keys_view =>
    intro current
    change u.keys.Current c t
    rw [adds.keys_view current]
    exact ListView.current_of_view adds.shows slots.shows slots.evolves (by simp)
  case values_view =>
    intro exact_values
    apply now
    rw [exact_values]
    exact ListView.current_of_view shows adds.shows begun (by simp)
  case room =>
    intro exhausted
    exact Nat.lt_of_lt_of_le (adds.pages_lt shows exhausted) slots.evolves.room.pages

/-- A key is added with its slot, or it is not added, unless in between a page is lacking. -/
theorem addKey_cases (shows : a.Shows p) (sees : p.SeesObject o) (key : String) :
    (∃ n m u b q, addKey key (o, a) = (.error (.allocationFailed n m), (u, b)) ∧ b.Shows q ∧
      q.SeesObject u ∧ u.header = o.header ∧ (p.Evolves [] q ∨ KeyAlone p o key q)) ∨
    ∃ item u b q, addKey key (o, a) = (.ok item, (u, b)) ∧ KeyAdded a p o key item u b q := by
  rw [addKey_eq]
  rcases addName_cases shows sees key with
    ⟨n, m, b, q, failed, shows_q, evolves⟩ | ⟨name, u, b₁, q₁, named, adds⟩
  · have sees_q := sees_evolves sees evolves shows.formed shows_q.formed.null
    exact .inl ⟨n, m, o, b, q, Step.bind_error failed, shows_q, sees_q, rfl, .inl evolves⟩
  rcases ListView.append_cases adds.shows adds.sees.values
      (Heap.issued_none adds.shows.formed.null) with
    ⟨n, m, b, q, failed, shows_q, evolves, without⟩ |
    ⟨item, empty, b, q, w, slotted, slots, sees_w, header, now⟩
  · have sees_q := sees_evolves adds.sees evolves adds.shows.formed shows_q.formed.null
    exact .inl ⟨n, m, u, b, q, (Step.bind_ok named).trans (changingValues_apply failed), shows_q,
      sees_q, adds.header, .inr (adds.keyAlone shows sees shows_q evolves without)⟩
  · obtain rfl : empty = .none := slots.keeps
    exact .inr ⟨item, _, b, q, (Step.bind_ok named).trans (changingValues_apply slotted),
      adds.keyAdded shows sees slots sees_w header now⟩

end ObjectView
end ValueArena
