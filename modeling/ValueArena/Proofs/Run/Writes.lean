import ValueArena.Program.Statement
import ValueArena.Proofs.Run.Reads

/-!
What each command does to the sequences. An append adds one entry to one list, a new content
replaces that of one item, a new key adds an entry to each list of an object; every other command,
and every one that fails, leaves all sequences as they are.
-/
namespace ValueArena.Command

variable {T : Type → Type → Type} [KeyMap T]

/-- The content that a command appends to a list. -/
def appended? : ListCommand → Option HandleArg
  | .append content => some content
  | .appendEmpty => some .none
  | _ => none

/-- The item whose content a command replaces, and what it is given for it. -/
inductive Replaces (n : Names) (a : Arena) : Command → Handle → HandleArg → Prop
  | setContent (name item content v x) (view : n.lists.find? name = some v)
      (target : item.value? n = some x) :
      Replaces n a (.onList name (.setContent item content)) x content
  | setContentAt (name index content v x) (view : n.lists.find? name = some v)
      (target : (ListView.item a index v).1 = .ok x) :
      Replaces n a (.onList name (.setContentAt index content)) x content
  | setSlot (name item content o x) (view : n.objects.find? name = some o)
      (target : item.value? n = some x) :
      Replaces n a (.onObject name (.setSlot item content)) x content
  | set (name key content o x) (view : n.objects.find? name = some o)
      (target : (ObjectView.slot a key o).1 = .ok x) :
      Replaces n a (.onObject name (.set key content)) x content

/-- A command replaces one content at most. -/
theorem Replaces.unique {n : Names} {a : Arena} {c : Command} {target target' : Handle}
    {content content' : HandleArg} (replaces : Replaces n a c target content)
    (replaces' : Replaces n a c target' content') : target = target' ∧ content = content' := by
  cases replaces with
  | setContent _ _ _ _ _ _ aimed =>
    cases replaces' with
    | setContent _ _ _ _ _ _ aimed' => exact ⟨Option.some.inj (aimed.symm.trans aimed'), rfl⟩
  | setContentAt _ _ _ _ _ view answer =>
    cases replaces' with
    | setContentAt _ _ _ _ _ view' answer' =>
      obtain rfl := Option.some.inj (view.symm.trans view')
      exact ⟨Except.ok.inj (answer.symm.trans answer'), rfl⟩
  | setSlot _ _ _ _ _ _ aimed =>
    cases replaces' with
    | setSlot _ _ _ _ _ _ aimed' => exact ⟨Option.some.inj (aimed.symm.trans aimed'), rfl⟩
  | set _ _ _ _ _ view answer =>
    cases replaces' with
    | set _ _ _ _ _ view' answer' =>
      obtain rfl := Option.some.inj (view.symm.trans view')
      exact ⟨Except.ok.inj (answer.symm.trans answer'), rfl⟩

/-- An entry for a key: a new item that holds a new text. -/
structure NewKey (a b : Arena) (key : String) (e : Entry) : Prop where
  vacant : a.Vacant e.item
  item : b.Starts .listItem e.item
  text : ∃ h, h.addr = e.content ∧ a.Makes b h ∧ h.kind = .string ∧ b.readString h = .ok key

/-- What a command has done to the lists, by its result. -/
inductive Performs (n : Names) (a b : Arena) :
    Command → Except Fault Answer → List Change → Prop
  | quiet (c answer) (reads : c.writes = false) : Performs n a b c answer []
  | failed (c e) : Performs n a b c (.error e) []
  | append (name command content v h item kept) (form : appended? command = some content)
      (view : n.lists.find? name = some v) (given : content.value? n = some h)
      (makes : a.Makes b item) (stores : a.Stores b h kept) :
      Performs n a b (.onList name command) (.ok (.handle item))
        [.append v.header.addr ⟨item.addr, kept⟩]
  | replace (c x content h kept) (target : Replaces n a c x content)
      (given : content.value? n = some h) (stores : a.Stores b h kept) :
      Performs n a b c (.ok .nothing) [.replace x.addr kept]
  | addKey (name key o item e) (view : n.objects.find? name = some o) (entry : NewKey a b key e)
      (makes : a.Makes b item) (room : a.Exhausted → a.pageCount < b.pageCount) :
      Performs n a b (.onObject name (.addKey key)) (.ok (.handle item))
        [.append o.keys.header.addr e, .append o.values.header.addr ⟨item.addr, .null⟩]
  | addKeyAlone (name key o fault e) (view : n.objects.find? name = some o)
      (entry : NewKey a b key e)
      (room : ∀ es fs, a.Represents o.keys.header.addr es →
        a.Represents o.values.header.addr fs → fs.length ≤ es.length →
        b.Exhausted ∧ a.lapses < b.lapses) :
      Performs n a b (.onObject name (.addKey key)) (.error fault)
        [.append o.keys.header.addr e]

/-- The arena shows another picture after the command, which its changes lead to. -/
structure Advances (n : Names) (a : Arena) (p : Picture) (c : Command)
    (result : Except Fault Answer) (m : Names) (b : Arena) (q : Picture) (changes : List Change) :
    Prop where
  shows : b.Shows q
  evolves : p.Evolves changes q
  names : m.Fits q
  answer : ∀ answer, result = .ok answer → answer.Fits q
  performs : Performs n a b c result changes

variable {n m : Names} {a b : Arena} {p q : Picture} {c : Command} {changes : List Change}

/-- A failure answers nothing. -/
theorem fits_of_error (p : Picture) (e : Fault) (answer : Answer)
    (eq : (Except.error e : Except Fault Answer) = .ok answer) : answer.Fits p := by
  cases eq

theorem advances_refused (shows : a.Shows p) (names : n.Fits p) (c : Command) (e : Fault) :
    Advances n a p c (.error e) n a p [] :=
  ⟨shows, .refl p, names, fits_of_error p e, .failed c e⟩

/-- The part of a command that is still to run takes the arena to another picture. -/
def Leads (n : Names) (a : Arena) (p : Picture) (c : Command) (x : CommandStep Answer) : Prop :=
  ∃ q changes, Advances n a p c (x (n, a)).1 (x (n, a)).2.1 (x (n, a)).2.2 q changes

theorem leads_of_apply {x : CommandStep Answer} {result : Except Fault Answer}
    (ran : x (n, a) = (result, (m, b))) (advances : Advances n a p c result m b q changes) :
    Leads n a p c x := by
  rw [Leads, ran]
  exact ⟨q, changes, advances⟩

/-- Looking something up either fails, and nothing changes, or goes on from the same state. -/
theorem leads_bind_stay (shows : a.Shows p) (names : n.Fits p) {x : CommandStep α}
    {f : α → CommandStep Answer} (stays : (x (n, a)).2 = (n, a))
    (next : ∀ v, (x (n, a)).1 = .ok v → Leads n a p c (f v)) : Leads n a p c (x >>= f) := by
  obtain ⟨result, t, ran⟩ : ∃ result t, x (n, a) = (result, t) := ⟨_, _, rfl⟩
  rw [ran] at stays next
  cases stays
  cases result with
  | error e => exact leads_of_apply (Step.bind_error ran) (advances_refused shows names c e)
  | ok v =>
    rw [Leads, Step.bind_ok ran]
    exact next v rfl

theorem leads_listNamed (shows : a.Shows p) (names : n.Fits p) {name : String}
    {f : ListView → CommandStep Answer}
    (next : ∀ v, n.lists.find? name = some v → Leads n a p c (f v)) :
    Leads n a p c (listNamed name >>= f) := by
  apply leads_bind_stay shows names rfl
  intro v looked
  simp only [listNamed, Step.view_apply] at looked
  split at looked
  case h_1 u found =>
    cases looked
    exact next v found
  case h_2 => cases looked

theorem leads_objectNamed (shows : a.Shows p) (names : n.Fits p) {name : String}
    {f : ObjectView → CommandStep Answer}
    (next : ∀ o, n.objects.find? name = some o → Leads n a p c (f o)) :
    Leads n a p c (objectNamed name >>= f) := by
  apply leads_bind_stay shows names rfl
  intro o looked
  simp only [objectNamed, Step.view_apply] at looked
  split at looked
  case h_1 u found =>
    cases looked
    exact next o found
  case h_2 => cases looked

theorem leads_handleOf (shows : a.Shows p) (names : n.Fits p) {arg : HandleArg}
    {f : Handle → CommandStep Answer}
    (next : ∀ h, arg.value? n = some h → Leads n a p c (f h)) :
    Leads n a p c (handleOf arg >>= f) := by
  rcases handleOf_cases arg n a with ⟨h, given, resolved⟩ | ⟨e, _, unbound⟩
  · rw [Leads, Step.bind_ok resolved]
    exact next h given
  · exact leads_of_apply (Step.bind_error unbound) (advances_refused shows names c e)

/-- A change through a kept view that fails and writes no list. -/
theorem advances_failed (shows : b.Shows q) (names : m.Fits q) (evolves : p.Evolves [] q)
    (c : Command) (e : Fault) : Advances n a p c (.error e) m b q [] :=
  ⟨shows, evolves, names, fits_of_error q e, .failed c e⟩

/-- Appending through a view that is kept under a name. -/
theorem leads_append (shows : a.Shows p) (names : n.Fits p) {name : String} {command : ListCommand}
    {content : HandleArg} (form : appended? command = some content) {h : Handle}
    (given : content.value? n = some h) :
    Leads n a p (.onList name command)
      (do return Answer.handle (← changingList name (ListView.append h))) := by
  cases view : n.lists.find? name with
  | none =>
    exact leads_of_apply (Step.bind_error (changingList_unbound _ view))
      (advances_refused shows names _ (.unbound name))
  | some v =>
    have issued := HandleArg.issued names shows.formed.null given
    have sees := names.lists name v view
    rcases ListView.append_cases shows sees issued with
      ⟨x, y, b, q, failed, shows_b, evolves, _⟩ |
      ⟨item, kept, b, q, u, appended, appends, sees_u, _, _⟩
    · have names_b := names.evolves evolves shows.formed shows_b.formed.null
      have sees_b := sees.evolves evolves shows.formed shows_b.formed.null
      exact leads_of_apply (Step.bind_pure_apply (changingList_apply view failed))
        (advances_failed shows_b (names_b.insert_list name sees_b) evolves _ _)
    · have names_b := names.evolves appends.evolves shows.formed appends.shows.formed.null
      refine leads_of_apply (Step.bind_pure_apply (changingList_apply view appended))
        ⟨appends.shows, appends.evolves, names_b.insert_list name sees_u, ?_,
          .append name command content v h item _ form view given (appends.makes shows)
            (Arena.stores_of_keeps shows appends.shows appends.keeps appends.kept_handle)⟩
      intro _ eq
      cases eq
      change q.heap.Issued item
      rw [appends.item_handle]
      exact Heap.issued_handleAt appends.shows.formed.null _

/-- What remains of a command after an item took another content. -/
theorem advances_refilled {x h kept : Handle} {content : HandleArg} (shows : a.Shows p)
    (names : m.Fits q) (refills : Arena.Refilled p h x.addr kept b q)
    (target : Replaces n a c x content) (given : content.value? n = some h) :
    Advances n a p c (.ok .nothing) m b q [.replace x.addr kept.addr] := by
  refine ⟨refills.shows, refills.evolves, names, ?_, .replace c x content h _ target given
    (Arena.stores_of_keeps shows refills.shows refills.keeps refills.kept_handle)⟩
  intro _ eq
  cases eq
  trivial

theorem leads_runOnList (shows : a.Shows p) (names : n.Fits p) (name : String)
    {command : ListCommand} (allowed : ListCommand.writes command = true) :
    Leads n a p (.onList name command) (runOnList name command) := by
  have null := shows.formed.null
  cases command with
  | append content =>
    apply leads_listNamed shows names
    intro v _
    apply leads_handleOf shows names
    intro h given
    exact leads_append shows names rfl given
  | appendEmpty =>
    have form : appended? .appendEmpty = some .none := rfl
    exact leads_append shows names form rfl
  | setContent item content =>
    apply leads_listNamed shows names
    intro v view
    apply leads_handleOf shows names
    intro x target
    apply leads_handleOf shows names
    intro h given
    have sees := names.lists name v view
    rcases ListView.setContent_cases shows sees (HandleArg.issued names null target)
        (HandleArg.issued names null given) with
      ⟨e, failed, _⟩ | ⟨kept, b, q, replaced, refills, sees_q⟩
    · exact leads_of_apply (Step.bind_pure_apply (changingList_apply view failed))
        (advances_failed shows (names.insert_list name sees) (.refl p) _ _)
    · have names_b := names.evolves refills.evolves shows.formed refills.shows.formed.null
      exact leads_of_apply (Step.bind_pure_apply (changingList_apply view replaced))
        (advances_refilled shows (names_b.insert_list name sees_q) refills
          (.setContent name item content v x view target) given)
  | setContentAt index content =>
    apply leads_listNamed shows names
    intro v view
    apply leads_handleOf shows names
    intro h given
    have sees := names.lists name v view
    rcases ListView.setContentAt_cases shows sees index (HandleArg.issued names null given) with
      ⟨e, u, failed, sees_u, _, _⟩ | ⟨target, kept, b, q, replaced, refills, sees_q, answer⟩
    · exact leads_of_apply (Step.bind_pure_apply (changingList_apply view failed))
        (advances_failed shows (names.insert_list name sees_u) (.refl p) _ _)
    · have names_b := names.evolves refills.evolves shows.formed refills.shows.formed.null
      exact leads_of_apply (Step.bind_pure_apply (changingList_apply view replaced))
        (advances_refilled shows (names_b.insert_list name sees_q) refills
          (.setContentAt name index content v target view answer) given)
  | _ => cases allowed

/-- Changing an object that is kept under a name. -/
theorem leads_changingObject (shows : a.Shows p) (names : n.Fits p) {name : String}
    {x : ObjectStep α} {g : α → Answer}
    (next : ∀ o, n.objects.find? name = some o → p.SeesObject o →
      ∃ (result : Except MemoryError α) (u : ObjectView) (b : Arena) (q : Picture)
        (changes : List Change), x (o, a) = (result, (u, b)) ∧
        Advances n a p c (result.mapError .memory |>.map g)
          { n with objects := n.objects.insert name u } b q changes) :
    Leads n a p c (do return g (← changingObject name x)) := by
  cases view : n.objects.find? name with
  | none =>
    exact leads_of_apply (Step.bind_pure_apply (changingObject_unbound _ view))
      (advances_refused shows names c (.unbound name))
  | some o =>
    obtain ⟨result, u, b, q, changes, ran, advances⟩ := next o view (names.objects name o view)
    exact leads_of_apply (Step.bind_pure_apply (changingObject_apply view ran)) advances

theorem newKey_of_entry (shows : a.Shows p) (shows_b : b.Shows q) {key : String} {e : Entry}
    (entry : ObjectView.KeyEntry p q key e) : NewKey a b key e := by
  obtain ⟨c, found, kind⟩ := entry.item
  have named := Heap.handleAt_of_some entry.text
  have addr : (q.heap.handleAt e.content).addr = e.content := by rw [named]; rfl
  refine ⟨(Arena.vacant_iff shows.holds).mpr entry.item_fresh,
    (Arena.starts_iff shows_b.holds).mpr ⟨c, found, kind⟩, q.heap.handleAt e.content, addr, ?_, ?_,
    Arena.readString_of_holds shows_b.holds entry.text⟩
  · refine shows.makes shows_b (c := .plain (.string key)) ?_ ?_ ?_
    · rw [addr]
      exact entry.text_fresh
    · rw [addr]
      exact entry.text
    · rw [addr]
  · rw [named]
    rfl

theorem leads_addKey (shows : a.Shows p) (names : n.Fits p) (name key : String) :
    Leads n a p (.onObject name (.addKey key)) (runOnObject name (.addKey key)) := by
  apply leads_changingObject shows names
  intro o view sees
  rcases ObjectView.addKey_cases shows sees key with
    ⟨x, y, u, b, q, failed, shows_b, sees_u, _, evolves | alone⟩ |
    ⟨item, u, b, q, added, adds⟩
  · have names_b := names.evolves evolves shows.formed shows_b.formed.null
    exact ⟨_, u, b, q, [], failed,
      advances_failed shows_b (names_b.insert_object name sees_u) evolves _ _⟩
  · obtain ⟨e, entry, evolves⟩ := alone.entry
    have names_b := names.evolves evolves shows.formed shows_b.formed.null
    refine ⟨_, u, b, q, _, failed, shows_b, evolves, names_b.insert_object name sees_u,
      fits_of_error q _, .addKeyAlone name key o _ e view (newKey_of_entry shows shows_b entry) ?_⟩
    intro es fs keys values le
    rw [keys.eq_lists shows, values.eq_lists shows] at le
    rw [shows_b.exhausted_iff, shows.lapses_eq, shows_b.lapses_eq]
    exact alone.room le
  · obtain ⟨e, entry, evolves⟩ := adds.entry
    obtain ⟨c, found⟩ := adds.cell
    have names_b := names.evolves evolves shows.formed adds.shows.formed.null
    refine ⟨_, u, b, q, _, added, adds.shows, evolves, names_b.insert_object name adds.sees, ?_,
      .addKey name key o item e view (newKey_of_entry shows adds.shows entry)
        (shows.makes adds.shows adds.fresh found adds.handle) ?_⟩
    · intro _ eq
      cases eq
      change q.heap.Issued item
      rw [adds.handle]
      exact Heap.issued_handleAt adds.shows.formed.null _
    · intro exhausted
      have more := adds.room (shows.exhausted_iff.mp exhausted)
      rw [← shows.room, ← adds.shows.room] at more
      exact more

theorem leads_runOnObject (shows : a.Shows p) (names : n.Fits p) (name : String)
    {command : ObjectCommand} (allowed : ObjectCommand.writes command = true) :
    Leads n a p (.onObject name command) (runOnObject name command) := by
  have null := shows.formed.null
  cases command with
  | addKey key => exact leads_addKey shows names name key
  | setSlot item content =>
    apply leads_objectNamed shows names
    intro o view
    apply leads_handleOf shows names
    intro x target
    apply leads_handleOf shows names
    intro h given
    have sees := names.objects name o view
    rcases ObjectView.setSlot_cases shows sees (HandleArg.issued names null target)
        (HandleArg.issued names null given) with
      ⟨e, failed, _⟩ | ⟨kept, b, q, u, replaced, refills, sees_u, _⟩
    · exact leads_of_apply (Step.bind_pure_apply (changingObject_apply view failed))
        (advances_failed shows (names.insert_object name sees) (.refl p) _ _)
    · have names_b := names.evolves refills.evolves shows.formed refills.shows.formed.null
      exact leads_of_apply (Step.bind_pure_apply (changingObject_apply view replaced))
        (advances_refilled shows (names_b.insert_object name sees_u) refills
          (.setSlot name item content o x view target) given)
  | set key content =>
    apply leads_objectNamed shows names
    intro o view
    apply leads_handleOf shows names
    intro h given
    have sees := names.objects name o view
    rcases ObjectView.set_cases shows sees key (HandleArg.issued names null given) with
      ⟨e, u, failed, sees_u, _, _⟩ |
      ⟨target, kept, b, q, u, replaced, refills, sees_u, _, answer, _⟩
    · exact leads_of_apply (Step.bind_pure_apply (changingObject_apply view failed))
        (advances_failed shows (names.insert_object name sees_u) (.refl p) _ _)
    · have names_b := names.evolves refills.evolves shows.formed refills.shows.formed.null
      exact leads_of_apply (Step.bind_pure_apply (changingObject_apply view replaced))
        (advances_refilled shows (names_b.insert_object name sees_u) refills
          (.set name key content o target view answer) given)
  | _ => cases allowed

/-- Every command that is given only what the arena issued. -/
theorem leads_run (r : Registry T) (shows : a.Shows p) (names : n.Fits p)
    (allowed : c.isPublic = true) : Leads n a p c (c.run r) := by
  cases reads : c.writes with
  | false =>
    obtain ⟨q, shows_b, evolves, names_b, fit⟩ := quietly_run r shows names allowed reads
    exact ⟨q, [], shows_b, evolves, names_b, fit, .quiet c _ reads⟩
  | true =>
    cases c with
    | onList name command => exact leads_runOnList shows names name reads
    | onObject name command => exact leads_runOnObject shows names name reads
    | _ => cases reads

end ValueArena.Command
