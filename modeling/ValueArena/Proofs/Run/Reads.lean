import ValueArena.Proofs.Run.Names

/-!
The commands that write no list. Each leaves the sequences as they are, and what it answers was
issued by the arena.
-/
namespace ValueArena.Command

variable {T : Type → Type → Type} [KeyMap T]

/-- Commands that look nowhere but at what the arena issued. Samples are programs of their own. -/
def isPublic : Command → Bool
  | .decode (.addr _) _ | .decode _ (some _) => false
  | .doubleList _ | .personObject | .numberedObject _ | .seriesSum .. => false
  | _ => true

def ListCommand.writes : ListCommand → Bool
  | .append _ | .appendEmpty | .setContent .. | .setContentAt .. => true
  | _ => false

def ObjectCommand.writes : ObjectCommand → Bool
  | .addKey _ | .setSlot .. | .set .. => true
  | _ => false

/-- Commands that write a list when they succeed. -/
def writes : Command → Bool
  | .onList _ command => ListCommand.writes command
  | .onObject _ command => ObjectCommand.writes command
  | _ => false

variable {n : Names} {a : Arena} {p : Picture} {fits : Picture → α → Prop}

theorem quietly_map {x : CommandStep α} {g : α → β} {fits' : Picture → β → Prop}
    (first : Quietly n a p x fits) (fit : ∀ q v, fits q v → fits' q (g v)) :
    Quietly n a p (do return g (← x)) fits' := by
  apply quietly_bind first
  intro n' b q v shows names _ fit_v
  exact quietly_pure shows names (fit q v fit_v)

theorem changingList_apply {name : String} {v u : ListView} {x : ListStep α} {b : Arena}
    {result : Except MemoryError α} (found : n.lists.find? name = some v)
    (ran : x (v, a) = (result, (u, b))) :
    changingList name x (n, a) =
      (result.mapError .memory, ({ n with lists := n.lists.insert name u }, b)) := by
  have named : listNamed name (n, a) = (.ok v, (n, a)) := by
    simp only [listNamed, Step.view_apply, found]
  apply (Step.bind_ok named).trans
  simp only [Step.mapError, ran]

theorem changingList_unbound {name : String} (x : ListStep α)
    (absent : n.lists.find? name = none) :
    changingList name x (n, a) = (.error (.unbound name), (n, a)) := by
  have unnamed : listNamed name (n, a) = (.error (.unbound name), (n, a)) := by
    simp only [listNamed, Step.view_apply, absent]
  exact Step.bind_error unnamed

theorem changingObject_apply {name : String} {o u : ObjectView} {x : ObjectStep α} {b : Arena}
    {result : Except MemoryError α} (found : n.objects.find? name = some o)
    (ran : x (o, a) = (result, (u, b))) :
    changingObject name x (n, a) =
      (result.mapError .memory, ({ n with objects := n.objects.insert name u }, b)) := by
  have named : objectNamed name (n, a) = (.ok o, (n, a)) := by
    simp only [objectNamed, Step.view_apply, found]
  apply (Step.bind_ok named).trans
  simp only [Step.mapError, ran]

theorem changingObject_unbound {name : String} (x : ObjectStep α)
    (absent : n.objects.find? name = none) :
    changingObject name x (n, a) = (.error (.unbound name), (n, a)) := by
  have unnamed : objectNamed name (n, a) = (.error (.unbound name), (n, a)) := by
    simp only [objectNamed, Step.view_apply, absent]
  exact Step.bind_error unnamed

theorem quietly_of_apply {x : CommandStep α} {m : Names} {result : Except MemoryError α}
    (shows : a.Shows p) (names : m.Fits p)
    (ran : x (n, a) = (result.mapError .memory, (m, a)))
    (fit : ∀ v, result = .ok v → fits p v) : Quietly n a p x fits := by
  refine ⟨p, ?_, .refl p, ?_, ?_⟩
  · rw [ran]
    exact shows
  · rw [ran]
    exact names
  · rw [ran]
    intro v eq
    exact fit v (ok_of_mapError eq)

theorem quietly_readingList (shows : a.Shows p) (names : n.Fits p) (name : String)
    (fits : Picture → α → Prop) {x : Arena → Step MemoryError ListView α}
    (reads : ∀ v, p.Sees v →
      Step.EndsWith (fun u => p.Sees u ∧ u.header = v.header) (fits p) (x a) v) :
    Quietly n a p (readingList name x) fits := by
  cases found : n.lists.find? name with
  | none =>
    have ran := changingList_unbound (a := a) (ListView.reading x) found
    apply quietly_stay shows names (by rw [readingList, ran])
    rw [readingList, ran]
    exact nofun
  | some v =>
    obtain ⟨⟨sees, _⟩, fit⟩ := reads v (names.lists name v found)
    exact quietly_of_apply shows (names.insert_list name sees)
      (changingList_apply found (ListView.reading_apply (u := (x a v).2) rfl)) fit

theorem quietly_readingObject (shows : a.Shows p) (names : n.Fits p) (name : String)
    (fits : Picture → α → Prop) {x : Arena → Step MemoryError ObjectView α}
    (reads : ∀ o, p.SeesObject o →
      Step.EndsWith (fun u => p.SeesObject u ∧ u.header = o.header) (fits p) (x a) o) :
    Quietly n a p (readingObject name x) fits := by
  cases found : n.objects.find? name with
  | none =>
    have ran := changingObject_unbound (a := a) (ObjectView.reading x) found
    apply quietly_stay shows names (by rw [readingObject, ran])
    rw [readingObject, ran]
    exact nofun
  | some o =>
    obtain ⟨⟨sees, _⟩, fit⟩ := reads o (names.objects name o found)
    exact quietly_of_apply shows (names.insert_object name sees)
      (changingObject_apply found (ObjectView.reading_apply (u := (x a o).2) rfl)) fit

theorem quietly_runOnList (shows : a.Shows p) (names : n.Fits p) (name : String)
    {command : ListCommand} (quiet : ListCommand.writes command = false) :
    Quietly n a p (runOnList name command) fun q answer => answer.Fits q := by
  have read : ∀ {α : Type} {f : ListView → Except MemoryError α} {v : ListView}, p.Sees v →
      Step.EndsWith (fun u => p.Sees u ∧ u.header = v.header) (fun _ => True)
        (ListView.ensureFresh a >>= fun _ => Step.view f) v :=
    fun sees => ListView.read_endsWith shows sees fun _ _ _ _ => trivial
  cases command with
  | clone => exact quietly_map (quietly_listNamed shows names name) fun _ _ sees => sees
  | handle => exact quietly_map (quietly_listNamed shows names name) fun _ _ sees => sees.named
  | describe =>
    apply quietly_bind (quietly_listNamed shows names name)
    intro m b q v shows names _ _
    exact quietly_map (quietly_look shows names _)
      fun _ _ _ => trivial
  | cached => exact quietly_map (quietly_listNamed shows names name) fun _ _ _ => trivial
  | refresh =>
    refine quietly_bind (quietly_readingList shows names name (fun _ _ => True) ?_) ?_
    · intro v sees
      rw [Step.EndsWith, ListView.refresh_ok shows sees.header]
      exact ⟨⟨Picture.sees_view shows.formed.null sees.header sees.named, rfl⟩, fun _ _ => trivial⟩
    · intro m b q _ shows names _ _
      exact quietly_pure shows names trivial
  | item index =>
    exact quietly_map (quietly_readingList shows names name (fun q h => q.heap.Issued h)
      fun v sees => ListView.item_endsWith shows sees index) fun _ _ issued => issued
  | get index =>
    exact quietly_map (quietly_readingList shows names name (fun q h => q.heap.Issued h)
      fun v sees => ListView.get_endsWith shows sees index) fun _ _ issued => issued
  | items | values | indexOfText | indexOfNumber | text =>
    exact quietly_map (quietly_readingList shows names name (fun _ _ => True)
      fun v sees => read sees) fun _ _ _ => trivial
  | append | appendEmpty | setContent | setContentAt => cases quiet

theorem quietly_runOnObject (shows : a.Shows p) (names : n.Fits p) (name : String)
    {command : ObjectCommand} (quiet : ObjectCommand.writes command = false) :
    Quietly n a p (runOnObject name command) fun q answer => answer.Fits q := by
  cases command with
  | clone => exact quietly_map (quietly_objectNamed shows names name) fun _ _ sees => sees
  | handle => exact quietly_map (quietly_objectNamed shows names name) fun _ _ sees => sees.named
  | keys => exact quietly_map (quietly_objectNamed shows names name) fun _ _ sees => sees.keys
  | values => exact quietly_map (quietly_objectNamed shows names name) fun _ _ sees => sees.values
  | describe =>
    apply quietly_bind (quietly_objectNamed shows names name)
    intro m b q o shows names _ _
    apply quietly_bind (quietly_look shows names _)
    intro m b q size shows names _ _
    apply quietly_bind (quietly_look shows names _)
    intro m b q keys shows names _ _
    exact quietly_map (quietly_look shows names _) fun _ _ _ => trivial
  | indexOf key =>
    exact quietly_map (quietly_readingObject shows names name (fun _ _ => True)
      fun o sees => ObjectView.indexOf_endsWith shows sees key) fun _ _ _ => trivial
  | hasKey key =>
    exact quietly_map (quietly_readingObject shows names name (fun _ _ => True)
      fun o sees => ObjectView.hasKey_endsWith shows sees key) fun _ _ _ => trivial
  | slot key =>
    exact quietly_map (quietly_readingObject shows names name (fun q h => q.heap.Issued h)
      fun o sees => ObjectView.slot_endsWith shows sees key) fun _ _ issued => issued
  | get key =>
    exact quietly_map (quietly_readingObject shows names name (fun q h => q.heap.Issued h)
      fun o sees => ObjectView.get_endsWith shows sees key) fun _ _ issued => issued
  | addKey | setSlot | set => cases quiet

theorem quietly_runAssign (shows : a.Shows p) (names : n.Fits p) (target : HandleArg)
    (source : SourceArg) :
    Quietly n a p (runAssign target source) fun q answer => answer.Fits q := by
  apply quietly_bind (quietly_handleOf shows names target)
  intro m b q old shows names _ issued
  apply quietly_bind (quietly_sourceOf shows names source)
  intro m c r source shows' names evolves issued_source
  have issued := issued.grows evolves.grows shows'.formed.null
  refine quietly_bind
    (quietly_onArena shows' names (Arena.quietly_assign shows' issued issued_source)) ?_
  intro m b q given shows names _ issued
  obtain ⟨_, new⟩ := given
  cases target with
  | none => exact quietly_pure shows names trivial
  | immediate v => exact quietly_pure shows names trivial
  | named name =>
    have kept : (m.keep name (.handle new)).Fits q := names.keep name issued
    exact ⟨q, shows, .refl q, kept, by rintro _ ⟨⟩; trivial⟩

/-- What is opened right after it was created fits. -/
theorem quietly_create (shows : a.Shows p) (names : n.Fits p) {x : ArenaStep Handle}
    {issued : Heap → Handle → Prop} (quiet : a.Quietly p x issued)
    {f : Arena → Handle → Except MemoryError α}
    (opens : ∀ b q h v, b.Shows q → issued q.heap h → f b h = .ok v → fits q v) :
    Quietly n a p (onArena (do let h ← x; .view (f · h))) fits := by
  obtain ⟨q, shows_b, evolves, fit⟩ := quiet
  obtain ⟨result, b, ran⟩ : ∃ result b, x a = (result, b) := ⟨_, _, rfl⟩
  rw [ran] at shows_b fit
  cases result with
  | error e =>
    have failed := Step.bind_error (f := fun h => Step.view (f · h)) ran
    refine quietly_onArena_of (q := q) shows names ?_ evolves ?_
    · rw [failed]
      exact shows_b
    · rw [failed]
      exact nofun
  | ok h =>
    have opened := Step.bind_ok (f := fun h => Step.view (f · h)) ran
    refine quietly_onArena_of (q := q) shows names ?_ evolves ?_
    · rw [opened]
      exact shows_b
    · intro v eq
      rw [opened] at eq
      exact opens b q h v shows_b (fit h rfl) eq

theorem sees_of_ofHandle (shows : a.Shows p) {h : Handle} (issued : p.heap.Issued h) {v : ListView}
    (opened : ListView.ofHandle a h = .ok v) : p.Sees v := by
  rcases ListView.ofHandle_cases shows issued with ⟨e, failed⟩ | ⟨header, _, opened', sees⟩
  · rw [failed] at opened
    cases opened
  · rw [opened'] at opened
    cases opened
    exact sees

theorem sees_of_ofHandle_object (shows : a.Shows p) {h : Handle} (issued : p.heap.Issued h)
    {o : ObjectView} (opened : ObjectView.ofHandle a h = .ok o) : p.SeesObject o := by
  rcases ObjectView.ofHandle_cases shows issued with ⟨e, failed⟩ | ⟨_, _, _, opened', sees⟩
  · rw [failed] at opened
    cases opened
  · rw [opened'] at opened
    cases opened
    exact sees

/-- The value found again at the address of an issued handle. -/
theorem issued_of_decode (shows : a.Shows p) {h : Handle} (issued : p.heap.Issued h)
    {found : Handle} (decoded : a.decode h.addr = .ok found) : p.heap.Issued found := by
  have null : a.decode .null = .ok .none := rfl
  cases h with
  | immediate v =>
    rw [Handle.addr, null] at decoded
    cases decoded
    exact Heap.issued_none shows.formed.null
  | stored d =>
    by_cases none : d.addr = .null
    · rw [Handle.addr, none, null] at decoded
      cases decoded
      exact Heap.issued_none shows.formed.null
    · obtain ⟨c, at_addr, _⟩ := issued.cell none
      rw [Handle.addr, Arena.decode_of_holds shows.holds at_addr] at decoded
      cases decoded
      exact Heap.issued_handleAt shows.formed.null _

/-- Reading a value through a handle. -/
theorem quietly_read (shows : a.Shows p) (names : n.Fits p) (h : HandleArg)
    (f : Handle → Arena → Except MemoryError α) (g : α → Answer) (fit : ∀ q v, (g v).Fits q) :
    Quietly n a p (do let h ← handleOf h; return g (← reading (f h)))
      fun q answer => answer.Fits q := by
  apply quietly_bind (quietly_handleOf shows names h)
  intro m b q h shows names _ _
  exact quietly_map (quietly_look shows names _) fun q v _ => fit q v

/-- Writing a value through a handle. -/
theorem quietly_write (shows : a.Shows p) (names : n.Fits p) (h : HandleArg)
    {x : Handle → ArenaStep Unit}
    (quiet : ∀ {b : Arena} {q : Picture} {h : Handle}, b.Shows q → q.heap.Issued h →
      b.Quietly q (x h) fun _ _ => True) :
    Quietly n a p (do let h ← handleOf h; onArena (x h); return Answer.nothing)
      fun q (answer : Answer) => answer.Fits q := by
  apply quietly_bind (quietly_handleOf shows names h)
  intro m b q h shows names _ issued
  apply quietly_bind (quietly_onArena shows names (quiet shows issued))
  intro m b q _ shows names _ _
  exact quietly_pure shows names trivial

/-- A command that writes no list changes no sequence, and answers with what the arena issued. -/
theorem quietly_run (r : Registry T) (shows : a.Shows p) (names : n.Fits p) {c : Command}
    (allowed : c.isPublic = true) (quiet : c.writes = false) :
    Quietly n a p (c.run r) fun q answer => answer.Fits q := by
  cases c with
  | bind h => exact quietly_map (quietly_handleOf shows names h) fun _ _ issued => issued
  | create content =>
    exact quietly_map (quietly_onArena shows names (Arena.quietly_create shows content))
      fun _ _ issued => issued
  | createList =>
    exact quietly_map (quietly_onArena shows names (Arena.quietly_createList shows))
      fun _ _ issued => issued.1
  | createObject =>
    exact quietly_map (quietly_onArena shows names (Arena.quietly_createObject shows))
      fun _ _ issued => issued.1
  | decode place delta =>
    cases place with
    | addr => cases allowed
    | handle h =>
      cases delta with
      | some => cases allowed
      | none =>
        apply quietly_bind (quietly_handleOf shows names h)
        intro m b q h shows names _ issued
        exact quietly_map (quietly_reading shows names (fun q h => q.heap.Issued h)
          fun _ decoded => issued_of_decode shows issued decoded) fun _ _ issued => issued
  | scan page start count => exact quietly_stay shows names rfl (by rintro _ ⟨⟩; trivial)
  | describe h => exact quietly_map (quietly_handleOf shows names h) fun _ _ _ => trivial
  | equal h g =>
    apply quietly_bind (quietly_handleOf shows names h)
    intro m b q h shows names _ _
    apply quietly_bind (quietly_handleOf shows names g)
    intro m b q g shows names _ _
    exact quietly_pure shows names trivial
  | config => exact quietly_map (quietly_look shows names _) fun _ _ _ => trivial
  | readInteger h =>
    exact quietly_read shows names h (fun h a => a.readInteger h) _ fun _ _ => trivial
  | readLong h => exact quietly_read shows names h (fun h a => a.readLong h) _ fun _ _ => trivial
  | readDouble h =>
    exact quietly_read shows names h (fun h a => a.readDouble h) _ fun _ _ => trivial
  | readString h =>
    exact quietly_read shows names h (fun h a => a.readString h) _ fun _ _ => trivial
  | readFunction h =>
    exact quietly_read shows names h (fun h a => a.readFunction h) _ fun _ _ => trivial
  | readNativeIndex h =>
    exact quietly_read shows names h (fun h a => a.readNativeIndex h) _ fun _ _ => trivial
  | resolveFunction h =>
    exact quietly_read shows names h (fun h a => r.resolveFunction a h) _ fun _ _ => trivial
  | resolveObject h =>
    exact quietly_read shows names h (fun h a => r.resolveObject a h) _ fun _ _ => trivial
  | resolveNative h =>
    exact quietly_read shows names h (fun h a => r.resolveNative a h) _ fun _ _ => trivial
  | registrySize => exact quietly_pure shows names trivial
  | assign target source => exact quietly_runAssign shows names target source
  | sourceKind source =>
    exact quietly_map (quietly_sourceOf shows names source) fun _ _ _ => trivial
  | listCreate =>
    exact quietly_map (quietly_create shows names (Arena.quietly_createList shows)
      fun b q h v shows issued => sees_of_ofHandle shows issued.1) fun _ _ sees => sees
  | objectCreate =>
    exact quietly_map (quietly_create shows names (Arena.quietly_createObject shows)
      fun b q h v shows issued => sees_of_ofHandle_object shows issued.1) fun _ _ sees => sees
  | onList name command => exact quietly_runOnList shows names name quiet
  | onObject name command => exact quietly_runOnObject shows names name quiet
  | doubleList | personObject | numberedObject | seriesSum => cases allowed
  | setInteger h v =>
    exact quietly_write shows names h fun shows issued => Arena.quietly_setInteger shows issued v
  | setLong h v =>
    exact quietly_write shows names h fun shows issued => Arena.quietly_setLong shows issued v
  | setDouble h v =>
    exact quietly_write shows names h fun shows issued => Arena.quietly_setDouble shows issued v
  | apply op target source =>
    apply quietly_bind (quietly_handleOf shows names target)
    intro m b q target shows names _ issued
    apply quietly_bind (quietly_sourceOf shows names source)
    intro m c q' source shows' names evolves _
    have issued := issued.grows evolves.grows shows'.formed.null
    exact quietly_map (quietly_onArena shows' names (Arena.quietly_apply shows' issued op source))
      fun _ _ _ => trivial
  | listOpen h =>
    apply quietly_bind (quietly_handleOf shows names h)
    intro m b q h shows names _ issued
    exact quietly_map (quietly_reading shows names (fun q v => q.Sees v)
      fun _ opened => sees_of_ofHandle shows issued opened) fun _ _ sees => sees
  | objectOpen h =>
    apply quietly_bind (quietly_handleOf shows names h)
    intro m b q h shows names _ issued
    exact quietly_map (quietly_reading shows names (fun q o => q.SeesObject o)
      fun _ opened => sees_of_ofHandle_object shows issued opened) fun _ _ sees => sees

end ValueArena.Command
