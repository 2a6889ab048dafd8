import ValueArena.Proofs.Run.Lockstep

/-!
Objects as sequences of keys with slots, over whole programs. Looking for a key finds its first
place; what is set is the slot there, and a key that is added comes last with an empty slot.
-/
namespace ValueArena

variable {T : Type → Type → Type} [KeyMap T]

namespace Arena

/-- At an address there is a string with this text. -/
def ReadsAs (a : Arena) (addr : Addr) (text : String) : Prop :=
  ∃ h, a.decode addr = .ok h ∧ h.kind = .string ∧ a.readString h = .ok text

/-- The object at an address stands for these keys, each with its slot but where no page was to be
had for one. -/
structure Associates (a : Arena) (x : Addr) (keys : List String) (slots : List Entry) : Prop where
  lists : ∃ keysList valuesList es, a.HasLists x keysList valuesList ∧
    a.Represents keysList es ∧ List.Forall₂ (fun e key => a.ReadsAs e.content key) es keys ∧
    a.Represents valuesList slots
  inStep : a.InStep keys.length slots.length

/-- An immediate takes nine bytes of its own, and the store has refused them: nothing has
changed. -/
inductive Unstored (a b : Arena) : Handle → Except Fault Answer → Prop
  | full (v n m) (refused : ∃ e, (a.store.reserve 9).1 = .error e) (same : b = a) :
      Unstored a b (.immediate v) (.error (.memory (.allocationFailed n m)))

variable {a : Arena} {p : Picture} {x k v : Addr} {keys : List String}

theorem Shows.associates (shows : a.Shows p) (at_x : p.heap x = some (.object k v))
    (keyed : p.Keyed k v keys) : a.Associates x keys (p.lists v) := by
  obtain ⟨keys_list, values_list, _⟩ := shows.formed.object _ _ _ at_x
  constructor
  · refine ⟨k, v, p.lists k, (hasLists_iff shows).mpr at_x, shows.represents keys_list, ?_,
      shows.represents values_list⟩
    have texts := keyed.texts
    rw [Heap.Texts, ← List.forall₂_eq_eq_eq, List.forall₂_map_left_iff,
      List.forall₂_map_right_iff] at texts
    apply texts.imp
    intro e key found
    refine ⟨_, decode_of_holds shows.holds found, ?_, readString_of_holds shows.holds found⟩
    rw [Heap.handleAt_of_some found]
    rfl
  · exact keyed.inStep shows

/-- Every issued handle of an item passes for one. -/
theorem Shows.require_item (shows : a.Shows p) {l : Addr} {i : Nat} {e : Entry}
    (at_i : (p.lists l)[i]? = some e) {target : Handle} (issued : p.heap.Issued target)
    (same : e.item = target.addr) : ∃ d, target.require .listItem = .ok d := by
  have cell := shows.formed.item l i e at_i
  rw [same] at cell
  rw [issued.eq_handleAt shows.formed.null cell]
  exact ⟨_, Heap.require_handleAt (shows.addr_ne_null cell) cell⟩

/-- What an item does not take is an immediate for which there is no room. -/
theorem Unfilled.unstored {item content : Handle} {e : MemoryError} {d : Descriptor}
    (unfilled : a.Unfilled item content e) (bounded : a.store.Bounded)
    (required : item.require .listItem = .ok d) : a.Unstored a content (.error (.memory e)) := by
  cases unfilled with
  | noItem content e refused =>
    rw [required] at refused
    cases refused
  | noRoom v n m full =>
    obtain ⟨n', m', refused⟩ := PageStore.reserve_of_room_none bounded full
    exact .full v n m ⟨_, congrArg Prod.fst refused⟩ rfl

end Arena

/-- What a view of an object answers when it stands for these keys and slots. -/
structure ObjectView.Answers (o : ObjectView) (a : Arena) (keys : List String)
    (slots : List Entry) : Prop where
  size : (o.size a).map UInt32.toNat = .ok keys.length
  key : ∀ i key, keys[i]? = some key → ∃ h, (ListView.get a i o.keys).1 = .ok h ∧
    h.kind = .string ∧ a.readString h = .ok key
  values : o.values.Reads a slots
  indexOf : ∀ key, (ObjectView.indexOf a key o).1 = .ok (keys.idxOf? key)
  hasKey : ∀ key, (ObjectView.hasKey a key o).1 = .ok (decide (key ∈ keys))
  slot : ∀ key, (ObjectView.slot a key o).1 = match keys.idxOf? key with
    | none => .error (.keyNotFound key)
    | some i => match slots[i]? with
      | some e => a.decode e.item
      | none => .error (.outOfBounds i slots.length)
  get : ∀ key, (ObjectView.get a key o).1 = match keys.idxOf? key with
    | none => .error (.keyNotFound key)
    | some i => match slots[i]? with
      | some e => a.decode e.content
      | none => .error (.outOfBounds i slots.length)

namespace ObjectView

variable {a : Arena} {p : Picture} {o : ObjectView} {keys : List String}

theorem position_of_texts (shows : a.Shows p) (sees : p.SeesObject o)
    (current : o.keys.Current a p)
    (texts : p.heap.Texts (p.lists o.keys.header.addr) keys) (key : String) :
    (position a key o).1 = match keys.idxOf? key with
      | none => .error (.keyNotFound key)
      | some i => .ok i := by
  rw [(position_apply a key o).1,
    ListView.indexOfText_of_texts shows sees.keys.header current texts key]
  cases keys.idxOf? key <;> rfl

theorem idxOf?_of_position_ok (shows : a.Shows p) (sees : p.SeesObject o)
    (few : p.writes < 0x10000000000000000)
    (texts : p.heap.Texts (p.lists o.keys.header.addr) keys) {key : String} {i : Nat}
    (found : (position a key o).1 = .ok i) : keys.idxOf? key = some i := by
  rw [position_of_texts shows sees (ListView.current_of_sees shows sees.keys few) texts] at found
  cases first : keys.idxOf? key with
  | none =>
    rw [first] at found
    cases found
  | some j =>
    rw [first] at found
    cases found
    rfl

/-- Views of one object answer from its keys and slots. -/
theorem answers_of_texts (shows : a.Shows p) (sees : p.SeesObject o)
    (current_keys : o.keys.Current a p) (current_values : o.values.Current a p)
    (texts : p.heap.Texts (p.lists o.keys.header.addr) keys) :
    o.Answers a keys (p.lists o.values.header.addr) := by
  have list := sees.keys.header
  have found := fun key => ListView.indexOfText_of_texts shows list current_keys texts key
  have position := position_of_texts shows sees current_keys texts
  have keys_read := ListView.reads_of_current shows list current_keys
  have reads := ListView.reads_of_current shows sees.values.header current_values
  constructor
  · rw [← texts.length]
    exact keys_read.count
  · intro i key at_i
    obtain ⟨e, at_e, cell⟩ := texts.getElem? at_i
    have answer := keys_read.get i
    rw [at_e] at answer
    refine ⟨_, answer.trans (Arena.decode_of_holds shows.holds cell), ?_,
      Arena.readString_of_holds shows.holds cell⟩
    rw [Heap.handleAt_of_some cell]
    rfl
  · exact reads
  · exact found
  · intro key
    rw [hasKey_apply, found key]
    simp only [Except.map, ← List.isSome_idxOf?, Bool.decide_eq_true]
  · intro key
    rw [slot_apply, position key]
    cases keys.idxOf? key with
    | none => rfl
    | some i => exact reads.item i
  · intro key
    rw [get_apply, position key]
    cases keys.idxOf? key with
    | none => rfl
    | some i => exact reads.get i

end ObjectView

namespace Command

/-- What adding a key has done to an object, by its result. A key stays without a slot only where
no page is to be had for it. -/
inductive AddsKey (a b : Arena) (x : Addr) (keys : List String) (slots : List Entry)
    (key : String) : Except Fault Answer → Prop
  | added (item : Handle) (makes : a.Makes b item)
      (stands : b.Associates x (keys ++ [key]) (slots ++ [⟨item.addr, .null⟩])) :
      AddsKey a b x keys slots key (.ok (.handle item))
  | refused (n m : Nat) (stands : b.Associates x keys slots) :
      AddsKey a b x keys slots key (.error (.memory (.allocationFailed n m)))
  | alone (n m : Nat) (exhausted : b.Exhausted)
      (stands : b.Associates x (keys ++ [key]) slots) :
      AddsKey a b x keys slots key (.error (.memory (.allocationFailed n m)))

/-- What setting the slot of a key to a value has done, by its result. It fails only if there is no
such key, if the first one has no slot, or if there is no room for the value. -/
inductive SetsKey (a b : Arena) (x : Addr) (keys : List String) (slots : List Entry) (key : String)
    (value : Handle) : Except Fault Answer → Prop
  | absent (none : key ∉ keys) (same : b = a) :
      SetsKey a b x keys slots key value (.error (.memory (.keyNotFound key)))
  | slotless (i : Nat) (first : keys.idxOf? key = some i) (none : slots.length ≤ i)
      (same : b = a) :
      SetsKey a b x keys slots key value (.error (.memory (.outOfBounds i slots.length)))
  | full (result : Except Fault Answer) (present : key ∈ keys)
      (unstored : a.Unstored b value result) : SetsKey a b x keys slots key value result
  | set (i : Nat) (e : Entry) (kept : Addr) (first : keys.idxOf? key = some i)
      (slot : slots[i]? = some e) (stores : a.Stores b value kept)
      (stands : b.Associates x keys (slots.set i ⟨e.item, kept⟩)) :
      SetsKey a b x keys slots key value (.ok .nothing)

/-- What setting the slot at a place to a value has done, by its result. It fails only if there is
no room for the value. -/
inductive SetsSlot (a b : Arena) (x : Addr) (keys : List String) (slots : List Entry) (i : Nat)
    (item : Addr) (value : Handle) : Except Fault Answer → Prop
  | full (result : Except Fault Answer) (unstored : a.Unstored b value result) :
      SetsSlot a b x keys slots i item value result
  | set (kept : Addr) (stores : a.Stores b value kept)
      (stands : b.Associates x keys (slots.set i ⟨item, kept⟩)) :
      SetsSlot a b x keys slots i item value (.ok .nothing)

variable {n m : Names} {a b : Arena} {p q : Picture} {c : Command} {changes : List Change}
  {result : Except Fault Answer} {x k v : Addr} {keys : List String} {name key : String}
  {o : ObjectView}

theorem header_lists (sees : p.SeesObject o) (header : o.header.addr = x)
    (at_x : p.heap x = some (.object k v)) :
    o.keys.header.addr = k ∧ o.values.header.addr = v := by
  have cell := sees.cell
  rw [header, at_x] at cell
  cases cell
  exact ⟨rfl, rfl⟩

/-- An object stays where it is, and stands for what the picture says. -/
theorem Advances.associates (advances : Advances n a p c result m b q changes)
    (at_x : p.heap x = some (.object k v)) (keyed : q.Keyed k v keys) :
    b.Associates x keys (q.lists v) :=
  advances.shows.associates (advances.evolves.grows.kept at_x rfl) keyed

/-- Only one entry has the item. -/
theorem map_refill_eq_set (shows : a.Shows p) {i : Nat} {e : Entry}
    (at_i : (p.lists v)[i]? = some e) (kept : Addr) :
    (p.lists v).map (Entry.refill e.item kept) = (p.lists v).set i ⟨e.item, kept⟩ := by
  apply List.ext_getElem?
  intro j
  rw [List.getElem?_map, List.getElem?_set]
  by_cases same : i = j
  · subst same
    have inside := (List.getElem?_eq_some_iff.mp at_i).1
    rw [at_i, if_pos rfl, if_pos inside]
    simp [Entry.refill]
  · rw [if_neg same]
    cases at_j : (p.lists v)[j]? with
    | none => rfl
    | some f =>
      have other : f.item ≠ e.item := by
        intro eq
        exact same (shows.formed.apart v i e v j f at_i at_j eq.symm).2
      simp [Entry.refill, other]

/-- A command that replaces the content of a slot, and that has not failed, stores it there. -/
theorem Advances.filled (advances : Advances n a p c (.ok .nothing) m b q changes)
    (spares : c.Spares x (n, a)) (shows : a.Shows p) (names : n.Fits p)
    (few : p.writes < 0x10000000000000000) (at_x : p.heap x = some (.object k v))
    (keyed : p.Keyed k v keys) {target h : Handle} {content : HandleArg}
    (replaces : c.Replaces n a target content) (given : content.value? n = some h) {i : Nat}
    {e : Entry} (at_i : (p.lists v)[i]? = some e) (same : e.item = target.addr) :
    ∃ kept, a.Stores b h kept ∧ b.Associates x keys ((p.lists v).set i ⟨e.item, kept⟩) := by
  cases advances.alters spares shows names few at_x keyed with
  | same _ _ _ _ _ replaced =>
    obtain ⟨fault, eq⟩ := replaced target content replaces
    cases eq
  | replaced _ target' content' _ kept replaces' given' stores keyed_q slots =>
    obtain ⟨rfl, rfl⟩ := replaces.unique replaces'
    rw [given] at given'
    cases given'
    have after := advances.associates at_x keyed_q
    rw [slots, ← same, map_refill_eq_set shows at_i] at after
    exact ⟨kept, stores, after⟩

theorem objectNamed_bind (view : n.objects.find? name = some o) (f : ObjectView → CommandStep α) :
    (objectNamed name >>= f) (n, a) = f o (n, a) := by
  have named : objectNamed name (n, a) = (.ok o, (n, a)) := by
    simp only [objectNamed, Step.view_apply, view]
  exact Step.bind_ok named

theorem handleOf_bind {arg : HandleArg} {h : Handle} (given : arg.value? n = some h)
    (f : Handle → CommandStep α) : (handleOf arg >>= f) (n, a) = f h (n, a) := by
  rcases handleOf_cases arg n a with ⟨g, same, resolved⟩ | ⟨e, unbound, _⟩
  · rw [given] at same
    cases same
    exact Step.bind_ok resolved
  · rw [given] at unbound
    cases unbound

theorem changed_apply {u : ObjectView} {x : ObjectStep Unit} {result : Except MemoryError Unit}
    (view : n.objects.find? name = some o) (ran : x (o, a) = (result, (u, b))) :
    (changingObject name x >>= fun _ => pure Answer.nothing) (n, a) =
      ((result.mapError Fault.memory).map fun _ => Answer.nothing,
        ({ n with objects := n.objects.insert name u }, b)) :=
  Step.bind_pure_apply (changingObject_apply view ran)

/-- Adding a key fails for want of room alone. -/
theorem addKey_error (r : Registry T) (shows : a.Shows p) (sees : p.SeesObject o)
    (view : n.objects.find? name = some o) {e : Fault}
    (failed : ((Command.onObject name (.addKey key)).run r (n, a)).1 = .error e) :
    ∃ n m, e = .memory (.allocationFailed n m) := by
  have looked : (Command.onObject name (.addKey key)).run r (n, a) =
    (changingObject name (ObjectView.addKey key) >>= fun h => pure (.handle h)) (n, a) := rfl
  rcases ObjectView.addKey_cases shows sees key with
    ⟨n', m', _, _, _, refused, _⟩ | ⟨item, _, _, _, added, _⟩
  · rw [looked, Step.bind_pure_apply (changingObject_apply view refused)] at failed
    exact ⟨n', m', (Except.error.inj failed).symm⟩
  · rw [looked, Step.bind_pure_apply (changingObject_apply view added)] at failed
    cases failed

theorem addsKey (r : Registry T) (shows : a.Shows p) (names : n.Fits p)
    (few : p.writes < 0x10000000000000000) (at_x : p.heap x = some (.object k v))
    (keyed : p.Keyed k v keys) (view : n.objects.find? name = some o)
    (header : o.header.addr = x) :
    AddsKey a ((Command.onObject name (.addKey key)).run r (n, a)).2.2 x keys (p.lists v) key
      ((Command.onObject name (.addKey key)).run r (n, a)).1 := by
  obtain ⟨q, changes, advances⟩ := leads_run r (c := .onObject name (.addKey key)) shows names rfl
  have fails : ∀ e, ((Command.onObject name (.addKey key)).run r (n, a)).1 = .error e →
      ∃ n m, e = .memory (.allocationFailed n m) :=
    fun _ => addKey_error r shows (names.objects name o view) view
  generalize (Command.onObject name (.addKey key)).run r (n, a) = ran at advances fails ⊢
  obtain ⟨result, m, b⟩ := ran
  have spares : Spares x (n, a) (.onObject name (.addKey key)) := spares_of_idle x rfl rfl
  have stands : ∀ keys, q.Keyed k v keys → b.Associates x keys (q.lists v) :=
    fun _ => advances.associates at_x
  cases advances.alters spares shows names few at_x keyed with
  | same _ _ keyed_q slots adds _ =>
    obtain ⟨e, rfl⟩ := adds name key o rfl view header
    obtain ⟨n', m', rfl⟩ := fails e rfl
    have after := stands keys keyed_q
    rw [slots] at after
    exact .refused n' m' after
  | replaced _ _ _ _ _ replaces => cases replaces
  | added _ _ _ item _ _ makes keyed_q slots =>
    have after := stands _ keyed_q
    rw [slots] at after
    exact .added item makes after
  | alone _ _ _ e _ _ keyed_q slots exhausted =>
    obtain ⟨n', m', rfl⟩ := fails e rfl
    have after := stands _ keyed_q
    rw [slots] at after
    exact .alone n' m' exhausted after

/-- Where no item is found under a key nothing is set. -/
theorem setsKey_of_no_slot {slots : List Entry} (answers : o.Answers a keys slots) {value : Handle}
    {e : MemoryError} (refused : (ObjectView.slot a key o).1 = .error e) :
    SetsKey a a x keys slots key value (.error (.memory e)) := by
  rw [answers.slot] at refused
  cases first : keys.idxOf? key with
  | none =>
    rw [first] at refused
    cases refused
    exact .absent (List.idxOf?_eq_none_iff.mp first) rfl
  | some i =>
    rw [first] at refused
    cases at_i : slots[i]? with
    | none =>
      simp only [at_i] at refused
      cases refused
      exact .slotless i first (List.getElem?_eq_none_iff.mp at_i) rfl
    | some f =>
      obtain ⟨⟨h, decoded, _⟩, _⟩ := answers.values.finds f (List.mem_of_getElem? at_i)
      simp only [at_i, decoded] at refused
      cases refused

theorem setsKey (r : Registry T) (shows : a.Shows p) (names : n.Fits p)
    (few : p.writes < 0x10000000000000000) (at_x : p.heap x = some (.object k v))
    (keyed : p.Keyed k v keys) (view : n.objects.find? name = some o) (header : o.header.addr = x)
    {content : HandleArg} {h : Handle} (given : content.value? n = some h) :
    SetsKey a ((Command.onObject name (.set key content)).run r (n, a)).2.2 x keys (p.lists v) key h
      ((Command.onObject name (.set key content)).run r (n, a)).1 := by
  have sees := names.objects name o view
  obtain ⟨rfl, rfl⟩ := header_lists sees header at_x
  obtain ⟨q, changes, advances⟩ :=
    leads_run r (c := .onObject name (.set key content)) shows names rfl
  have looked : (Command.onObject name (.set key content)).run r (n, a) = _ :=
    (objectNamed_bind view _).trans (handleOf_bind given _)
  rcases ObjectView.set_cases shows sees key (HandleArg.issued names shows.formed.null given) with
    ⟨e, u, failed, _, _, cause⟩ | ⟨target, _, b, _, u, replaced, _, _, _, answer, _⟩
  · rw [looked.trans (changed_apply view failed)]
    rcases cause with refused | ⟨target, answer, unfilled⟩
    · exact setsKey_of_no_slot (ObjectView.answers_of_texts shows sees
        (ListView.current_of_sees shows sees.keys few)
        (ListView.current_of_sees shows sees.values few) keyed.texts) refused
    · obtain ⟨i, e, found, at_i, same⟩ := slot_item shows sees few answer
      have first := ObjectView.idxOf?_of_position_ok shows sees few keyed.texts found
      have present : key ∈ keys := List.isSome_idxOf?.mp (by rw [first]; rfl)
      have issued := (ObjectView.slot_endsWith shows sees key).2 target answer
      obtain ⟨d, required⟩ := shows.require_item at_i issued same
      exact .full _ present (unfilled.unstored shows.holds.bounded required)
  · rw [looked.trans (changed_apply view replaced)] at advances ⊢
    obtain ⟨i, e, found, at_i, same⟩ := slot_item shows sees few answer
    have first := ObjectView.idxOf?_of_position_ok shows sees few keyed.texts found
    obtain ⟨kept, stores, after⟩ := advances.filled (spares_of_idle _ rfl rfl) shows names few at_x
      keyed (.set name key content o target view answer) given at_i same
    exact .set i e kept first at_i stores after

theorem setsSlot (r : Registry T) (shows : a.Shows p) (names : n.Fits p)
    (few : p.writes < 0x10000000000000000) (at_x : p.heap x = some (.object k v))
    (keyed : p.Keyed k v keys) (view : n.objects.find? name = some o)
    {item content : HandleArg} {target h : Handle} (aimed : item.value? n = some target)
    (given : content.value? n = some h) {i : Nat} {e : Entry} (at_i : (p.lists v)[i]? = some e)
    (same : e.item = target.addr) :
    SetsSlot a ((Command.onObject name (.setSlot item content)).run r (n, a)).2.2 x keys
      (p.lists v) i e.item h ((Command.onObject name (.setSlot item content)).run r (n, a)).1 := by
  have sees := names.objects name o view
  have null := shows.formed.null
  obtain ⟨q, changes, advances⟩ :=
    leads_run r (c := .onObject name (.setSlot item content)) shows names rfl
  have looked : (Command.onObject name (.setSlot item content)).run r (n, a) = _ :=
    (objectNamed_bind view _).trans ((handleOf_bind aimed _).trans (handleOf_bind given _))
  rcases ObjectView.setSlot_cases shows sees (HandleArg.issued names null aimed)
      (HandleArg.issued names null given) with
    ⟨fault, failed, unfilled⟩ | ⟨_, b, _, u, replaced, _⟩
  · rw [looked.trans (changed_apply view failed)]
    obtain ⟨d, required⟩ := shows.require_item at_i (HandleArg.issued names null aimed) same
    exact .full _ (unfilled.unstored shows.holds.bounded required)
  · rw [looked.trans (changed_apply view replaced)] at advances ⊢
    -- The target lies in the values, and no item lies in two lists.
    have spares : Spares x (n, a) (.onObject name (.setSlot item content)) := by
      intro k' v' lists
      rw [Arena.hasLists_iff shows, at_x] at lists
      cases lists
      constructor
      · intro l eq
        cases eq
      · intro target' eq item_of_keys
        obtain rfl : target = target' := Option.some.inj (aimed.symm.trans eq)
        obtain ⟨es, f, keys_list, member, same'⟩ := item_of_keys
        have values_list := shows.represents (shows.formed.list_isList at_i)
        have together := keys_list.apart shows values_list member (List.mem_of_getElem? at_i)
          (same'.trans same.symm)
        exact (shows.formed.object _ _ _ at_x).2.2 together
    obtain ⟨kept, stores, after⟩ := advances.filled spares shows names few at_x keyed
      (.setSlot name item content o target view aimed) given at_i same
    exact .set kept stores after

/-- In a state the object at an address stands for these keys and slots. Its views answer from
them, what is done through its views changes them accordingly, and nothing else changes them,
unless it replaces the content of a slot. -/
structure KeepsObject (r : Registry T) (state : Names × Arena) (x : Addr) (keys : List String)
    (slots : List Entry) : Prop where
  stands : state.2.Associates x keys slots
  answers : ∀ name o, state.1.objects.find? name = some o → o.header.addr = x →
    o.Answers state.2 keys slots
  addKey : ∀ name o key, state.1.objects.find? name = some o → o.header.addr = x →
    AddsKey state.2 ((Command.onObject name (.addKey key)).run r state).2.2 x keys slots key
      ((Command.onObject name (.addKey key)).run r state).1
  set : ∀ name o key content h, state.1.objects.find? name = some o → o.header.addr = x →
    content.value? state.1 = some h →
    SetsKey state.2 ((Command.onObject name (.set key content)).run r state).2.2 x keys slots key h
      ((Command.onObject name (.set key content)).run r state).1
  setSlot : ∀ name o item target content h i e, state.1.objects.find? name = some o →
    o.header.addr = x → item.value? state.1 = some target → content.value? state.1 = some h →
    slots[i]? = some e → e.item = target.addr →
    SetsSlot state.2 ((Command.onObject name (.setSlot item content)).run r state).2.2 x keys
      slots i e.item h ((Command.onObject name (.setSlot item content)).run r state).1
  others : ∀ c : Command, c.isPublic = true → c.Spares x state →
    (∀ name key o, c = .onObject name (.addKey key) → state.1.objects.find? name = some o →
      o.header.addr ≠ x) →
    (∀ target content, c.Replaces state.1 state.2 target content → ∀ e ∈ slots,
      e.item ≠ target.addr) →
    (c.run r state).2.2.Associates x keys slots

theorem unchanged (advances : Advances n a p c result m b q changes) (shows : a.Shows p)
    (names : n.Fits p) (few : p.writes < 0x10000000000000000)
    (at_x : p.heap x = some (.object k v)) (keyed : p.Keyed k v keys) (spares : c.Spares x (n, a))
    (adds : ∀ name key o, c = .onObject name (.addKey key) → n.objects.find? name = some o →
      o.header.addr ≠ x)
    (replaced : ∀ target content, c.Replaces n a target content → ∀ e ∈ p.lists v,
      e.item ≠ target.addr) : b.Associates x keys (p.lists v) := by
  cases advances.alters spares shows names few at_x keyed with
  | same _ _ keyed_q slots =>
    have after := advances.associates at_x keyed_q
    rw [slots] at after
    exact after
  | replaced _ target content _ kept replaces _ _ keyed_q slots =>
    have after := advances.associates at_x keyed_q
    have same : (p.lists v).map (Entry.refill target.addr kept) = p.lists v :=
      on_replace_other (replaced target content replaces) v kept
    rw [slots, same] at after
    exact after
  | added name key o _ view header => exact absurd header (adds name key o rfl view)
  | alone name key o _ view header => exact absurd header (adds name key o rfl view)

theorem keepsObject_of_keyed (r : Registry T) (shows : a.Shows p) (names : n.Fits p)
    (few : p.writes < 0x10000000000000000) (at_x : p.heap x = some (.object k v))
    (keyed : p.Keyed k v keys) : KeepsObject r (n, a) x keys (p.lists v) := by
  constructor
  · exact shows.associates at_x keyed
  · intro name o view header
    have sees := names.objects name o view
    obtain ⟨rfl, rfl⟩ := header_lists sees header at_x
    exact ObjectView.answers_of_texts shows sees (ListView.current_of_sees shows sees.keys few)
      (ListView.current_of_sees shows sees.values few) keyed.texts
  · intro name o key view header
    exact addsKey r shows names few at_x keyed view header
  · intro name o key content h view header given
    exact setsKey r shows names few at_x keyed view header given
  · intro name o item target content h i e view _ aimed given at_i same
    exact setsSlot r shows names few at_x keyed view aimed given at_i same
  · intro c allowed spares adds replaced
    obtain ⟨q, changes, advances⟩ := leads_run r shows names allowed
    exact unchanged advances shows names few at_x keyed spares adds replaced

/-- Every object that a program has spared stands for a sequence of keys with slots. -/
theorem keepsObject_after (r : Registry T) (config : Config) (x : Addr) (program : List Statement)
    (allowed : ∀ s ∈ program, s.command.isPublic = true)
    (few : Statement.listWrites r program (.empty, .empty config) < 0x10000000000000000)
    (spared : Statement.Throughout r (fun state s => s.command.Spares x state) program
      (.empty, .empty config))
    (object : (Statement.after r config program).2.Starts .object x) :
    ∃ keys slots, KeepsObject r (Statement.after r config program) x keys slots := by
  obtain ⟨p, shows, names, few, inStep⟩ := Statement.inStep_after r config x allowed few spared
  obtain ⟨c, found, kind⟩ := (Arena.starts_iff shows.holds).mp object
  obtain ⟨k, v, rfl⟩ := Cell.eq_object_of_kind kind
  obtain ⟨keys, keyed⟩ := inStep k v found
  exact ⟨keys, p.lists v, keepsObject_of_keyed r shows names few found keyed⟩

/-- An object with one key twice, set through a second view of it. -/
def keyedSample : List Statement :=
  [⟨some "object", .objectCreate⟩,
   ⟨some "slot", .onObject "object" (.addKey "key")⟩,
   ⟨some "copy", .onObject "object" .clone⟩,
   ⟨none, .onObject "object" (.addKey "key")⟩,
   ⟨none, .onObject "copy" (.set "key" (.immediate 5))⟩]

/-- What a view reads of an object with two keys. -/
structure Glimpse where
  size : Except MemoryError Nat
  slots : Except MemoryError Nat
  firstKey : Except MemoryError String
  secondKey : Except MemoryError String
  firstNumber : Except MemoryError Binary64
  secondContent : Except MemoryError Handle
  deriving DecidableEq

def glimpse (a : Arena) (o : ObjectView) : Glimpse :=
  ⟨(o.size a).map UInt32.toNat, (o.values.count a).map UInt32.toNat,
    (ListView.get a 0 o.keys).1.bind a.readString, (ListView.get a 1 o.keys).1.bind a.readString,
    (ListView.get a 0 o.values).1.bind a.readDouble, (ListView.get a 1 o.values).1⟩

/-- An object that a view answers for is what the view shows. -/
theorem eq_of_glimpse {slots : List Entry} (answers : o.Answers a keys slots)
    {first second : String} {number : Binary64}
    (seen : glimpse a o = ⟨.ok 2, .ok 2, .ok first, .ok second, .ok number, .ok .none⟩) :
    keys = [first, second] ∧ ∃ e f h, slots = [e, f] ∧ a.decode e.content = .ok h ∧
      a.readDouble h = .ok number ∧ f.content = .null := by
  simp only [glimpse, Glimpse.mk.injEq, answers.size, answers.values.count, Except.ok.injEq] at seen
  obtain ⟨two, two', text₀, text₁, number₀, none₁⟩ := seen
  obtain ⟨k₀, k₁, rfl⟩ := List.length_eq_two.mp two
  obtain ⟨e, f, rfl⟩ := List.length_eq_two.mp two'
  have same_text : ∀ i key text, [k₀, k₁][i]? = some key →
      (ListView.get a i o.keys).1.bind a.readString = .ok text → key = text := by
    intro i key text at_i read
    obtain ⟨h, got, _, reads⟩ := answers.key i key at_i
    rw [got] at read
    exact Except.ok.inj (reads.symm.trans read)
  obtain ⟨h, decoded, _⟩ := (answers.values.finds e (.head _)).content
  obtain ⟨g, decoded', same⟩ := (answers.values.finds f (.tail _ (.head _))).content
  have at_e := answers.values.get 0
  have at_f := answers.values.get 1
  simp only [List.getElem?_cons_zero, List.getElem?_cons_succ, decoded, decoded'] at at_e at_f
  rw [at_e] at number₀
  rw [at_f] at none₁
  refine ⟨by rw [same_text 0 k₀ first rfl text₀, same_text 1 k₁ second rfl text₁],
    e, f, h, rfl, decoded, number₀, ?_⟩
  rw [← same, Except.ok.inj none₁]
  rfl

theorem keepsObject_after_keyedSample : ∃ o first second value,
    (Statement.after .empty ⟨64, none⟩ keyedSample).1.objects.find? "object" = some o ∧
      KeepsObject .empty (Statement.after .empty ⟨64, none⟩ keyedSample) o.header.addr
        ["key", "key"] [first, second] ∧
      (Statement.after .empty ⟨64, none⟩ keyedSample).2.decode first.content = .ok value ∧
      (Statement.after .empty ⟨64, none⟩ keyedSample).2.readDouble value = .ok (.ofInt 5) ∧
      second.content = .null ∧
      (Statement.runAll .empty keyedSample (.empty, .empty ⟨64, none⟩)).1.map Except.isOk =
        [true, true, true, true, true] := by
  have few : Statement.listWrites .empty keyedSample (.empty, .empty ⟨64, none⟩) = 5 := by
    decide +kernel
  have allowed : ∀ s ∈ keyedSample, s.command.isPublic = true := by decide
  have seen : ((Statement.after .empty ⟨64, none⟩ keyedSample).1.objects.find? "object").map
      (glimpse (Statement.after .empty ⟨64, none⟩ keyedSample).2) =
        some ⟨.ok 2, .ok 2, .ok "key", .ok "key", .ok (.ofInt 5), .ok .none⟩ := by decide +kernel
  obtain ⟨o, found, reads⟩ := Option.map_eq_some_iff.mp seen
  have idle := @spares_of_idle
  obtain ⟨keys, slots, keeps⟩ := keepsObject_after .empty ⟨64, none⟩ o.header.addr keyedSample
    allowed (by rw [few]; decide)
    ⟨idle _ rfl rfl, idle _ rfl rfl, idle _ rfl rfl, idle _ rfl rfl, idle _ rfl rfl, trivial⟩
    (Statement.starts_of_view .empty ⟨64, none⟩ allowed found)
  obtain ⟨rfl, first, second, value, rfl, decoded, number, empty⟩ :=
    eq_of_glimpse (keeps.answers "object" o found rfl) reads
  exact ⟨o, first, second, value, found, keeps, decoded, number, empty, by decide +kernel⟩

end Command
end ValueArena
