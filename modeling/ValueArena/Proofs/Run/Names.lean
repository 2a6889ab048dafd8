import ValueArena.Program.Execution
import ValueArena.Proofs.View.Object

/-!
Names as a program keeps them. Whatever stands under a name was issued by the arena: handles of its
values, views of its lists and of its objects. Commands that are not given a bare address keep this.
-/
namespace ValueArena

structure Names.Fits (n : Names) (p : Picture) : Prop where
  handles : ∀ name h, n.handles.find? name = some h → p.heap.Issued h
  lists : ∀ name v, n.lists.find? name = some v → p.Sees v
  objects : ∀ name o, n.objects.find? name = some o → p.SeesObject o

/-- A view that the names keep, by itself or as half of that of an object. -/
inductive Names.HasView (n : Names) : ListView → Prop where
  | list {name : String} {v : ListView} (found : n.lists.find? name = some v) : HasView n v
  | keys {name : String} {o : ObjectView} (found : n.objects.find? name = some o) :
    HasView n o.keys
  | values {name : String} {o : ObjectView} (found : n.objects.find? name = some o) :
    HasView n o.values

/-- An answer that can be kept was issued by the arena. -/
def Answer.Fits (p : Picture) : Answer → Prop
  | .handle h => p.heap.Issued h
  | .list v => p.Sees v
  | .object o => p.SeesObject o
  | _ => True

namespace Names

variable {n : Names} {p q : Picture} {changes : List Change}

theorem Fits.sees (fits : n.Fits p) {v : ListView} (kept : n.HasView v) : p.Sees v := by
  cases kept with
  | list found => exact fits.lists _ _ found
  | keys found => exact (fits.objects _ _ found).keys
  | values found => exact (fits.objects _ _ found).values

theorem empty_fits (p : Picture) : empty.Fits p := by constructor <;> simp [empty]

theorem Fits.evolves (fits : n.Fits p) (evolves : p.Evolves changes q)
    (formed : p.heap.Formed p.lists) (null : q.heap .null = none) : n.Fits q := by
  refine ⟨?_, ?_, ?_⟩
  · intro name h found
    exact (fits.handles name h found).grows evolves.grows null
  · intro name v found
    exact (fits.lists name v found).evolves evolves formed null
  · intro name o found
    exact ObjectView.sees_evolves (fits.objects name o found) evolves formed null

theorem Fits.insert_handle (fits : n.Fits p) (name : String) {h : Handle}
    (issued : p.heap.Issued h) : Fits { n with handles := n.handles.insert name h } p := by
  refine ⟨?_, fits.lists, fits.objects⟩
  intro other g found
  rw [Table.find?_insert] at found
  split at found
  · cases found
    exact issued
  · exact fits.handles other g found

theorem Fits.insert_list (fits : n.Fits p) (name : String) {v : ListView} (sees : p.Sees v) :
    Fits { n with lists := n.lists.insert name v } p := by
  refine ⟨fits.handles, ?_, fits.objects⟩
  intro other u found
  rw [Table.find?_insert] at found
  split at found
  · cases found
    exact sees
  · exact fits.lists other u found

theorem Fits.insert_object (fits : n.Fits p) (name : String) {o : ObjectView}
    (sees : p.SeesObject o) : Fits { n with objects := n.objects.insert name o } p := by
  refine ⟨fits.handles, fits.lists, ?_⟩
  intro other u found
  rw [Table.find?_insert] at found
  split at found
  · cases found
    exact sees
  · exact fits.objects other u found

theorem Fits.keep (fits : n.Fits p) (name : String) {answer : Answer} (fit : answer.Fits p) :
    (n.keep name answer).Fits p := by
  cases answer with
  | handle h => exact fits.insert_handle name fit
  | list v => exact fits.insert_list name fit
  | object o => exact fits.insert_object name fit
  | _ => exact fits

end Names

/-- What an argument stands for, if its name is bound. -/
def HandleArg.value? (n : Names) : HandleArg → Option Handle
  | .none => some .none
  | .immediate v => some (.immediate v)
  | .named name => n.handles.find? name

theorem HandleArg.issued {n : Names} {p : Picture} (fits : n.Fits p)
    (null : p.heap .null = Option.none)
    {arg : HandleArg} {h : Handle} (found : arg.value? n = some h) : p.heap.Issued h := by
  cases arg with
  | none =>
    cases found
    exact Heap.issued_none null
  | immediate v =>
    cases found
    trivial
  | named name => exact fits.handles name h found

namespace Command

variable {n : Names} {a : Arena} {p : Picture}

theorem handleOf_cases (arg : HandleArg) (n : Names) (a : Arena) :
    (∃ h, arg.value? n = some h ∧ handleOf arg (n, a) = (.ok h, (n, a))) ∨
      ∃ e, arg.value? n = none ∧ handleOf arg (n, a) = (.error e, (n, a)) := by
  cases arg with
  | none => exact .inl ⟨_, rfl, rfl⟩
  | immediate v => exact .inl ⟨_, rfl, rfl⟩
  | named name =>
    cases found : n.handles.find? name with
    | none => exact .inr ⟨.unbound name, found, by simp only [handleOf, Step.view_apply, found]⟩
    | some h => exact .inl ⟨h, found, by simp only [handleOf, Step.view_apply, found]⟩

/-- A command part that writes no list, and whose result fits. -/
def Quietly (n : Names) (a : Arena) (p : Picture) (x : CommandStep α) (fits : Picture → α → Prop) :
    Prop :=
  ∃ q, (x (n, a)).2.2.Shows q ∧ p.Evolves [] q ∧ (x (n, a)).2.1.Fits q ∧
    ∀ v, (x (n, a)).1 = .ok v → fits q v

variable {fits : Picture → α → Prop}

theorem quietly_stay (shows : a.Shows p) (names : n.Fits p) {x : CommandStep α}
    (stays : (x (n, a)).2 = (n, a)) (fit : ∀ v, (x (n, a)).1 = .ok v → fits p v) :
    Quietly n a p x fits := by
  refine ⟨p, ?_, .refl p, ?_, fit⟩
  · rw [stays]
    exact shows
  · rw [stays]
    exact names

theorem quietly_pure (shows : a.Shows p) (names : n.Fits p) {v : α} (fit : fits p v) :
    Quietly n a p (pure v) fits := by
  apply quietly_stay shows names rfl
  intro _ eq
  cases eq
  exact fit

theorem quietly_bind {x : CommandStep α} {f : α → CommandStep β} {fits' : Picture → β → Prop}
    (first : Quietly n a p x fits)
    (second : ∀ n' b q v, b.Shows q → n'.Fits q → p.Evolves [] q → fits q v →
      Quietly n' b q (f v) fits') : Quietly n a p (x >>= f) fits' := by
  obtain ⟨q, shows, evolves, names, fit⟩ := first
  obtain ⟨result, ⟨n', b⟩, ran⟩ : ∃ result t, x (n, a) = (result, t) := ⟨_, _, rfl⟩
  rw [ran] at shows names fit
  cases result with
  | error e =>
    refine ⟨q, ?_, evolves, ?_, ?_⟩
    · rw [Step.bind_error ran]
      exact shows
    · rw [Step.bind_error ran]
      exact names
    · rw [Step.bind_error ran]
      exact nofun
  | ok v =>
    obtain ⟨r, shows', evolves', names', fit'⟩ := second n' b q v shows names evolves (fit v rfl)
    refine ⟨r, ?_, evolves.trans_quiet evolves', ?_, ?_⟩
    · rw [Step.bind_ok ran]
      exact shows'
    · rw [Step.bind_ok ran]
      exact names'
    · rw [Step.bind_ok ran]
      exact fit'

theorem quietly_handleOf (shows : a.Shows p) (names : n.Fits p) (arg : HandleArg) :
    Quietly n a p (handleOf arg) fun q h => q.heap.Issued h := by
  rcases handleOf_cases arg n a with ⟨h, found, ran⟩ | ⟨e, _, ran⟩
  · apply quietly_stay shows names (by rw [ran])
    rw [ran]
    intro _ eq
    cases eq
    exact HandleArg.issued names shows.formed.null found
  · apply quietly_stay shows names (by rw [ran])
    rw [ran]
    exact nofun

theorem quietly_sourceOf (shows : a.Shows p) (names : n.Fits p) (arg : SourceArg) :
    Quietly n a p (sourceOf arg) fun q source => source.Issued q.heap := by
  cases arg with
  | number v => exact quietly_pure shows names trivial
  | text v => exact quietly_pure shows names trivial
  | handle h =>
    apply quietly_bind (quietly_handleOf shows names h)
    intro n' b q g shows_b names_b _ issued
    exact quietly_pure shows_b names_b issued

theorem quietly_listNamed (shows : a.Shows p) (names : n.Fits p) (name : String) :
    Quietly n a p (listNamed name) fun q v => q.Sees v := by
  apply quietly_stay shows names rfl
  intro v looked
  simp only [listNamed, Step.view_apply] at looked
  split at looked
  case h_1 u found =>
    cases looked
    exact names.lists name v found
  case h_2 => cases looked

theorem quietly_objectNamed (shows : a.Shows p) (names : n.Fits p) (name : String) :
    Quietly n a p (objectNamed name) fun q o => q.SeesObject o := by
  apply quietly_stay shows names rfl
  intro v looked
  simp only [objectNamed, Step.view_apply] at looked
  split at looked
  case h_1 u found =>
    cases looked
    exact names.objects name v found
  case h_2 => cases looked

/-- A result of the arena as a command reports it. -/
theorem ok_of_mapError {result : Except MemoryError α} {v : α}
    (eq : result.mapError Fault.memory = .ok v) : result = .ok v := by
  cases result with
  | error e => cases eq
  | ok u =>
    cases eq
    rfl

theorem quietly_onArena_of {q : Picture} {x : ArenaStep α} (shows : a.Shows p) (names : n.Fits p)
    (shows_b : (x a).2.Shows q) (evolves : p.Evolves [] q)
    (fit : ∀ v, (x a).1 = .ok v → fits q v) : Quietly n a p (onArena x) fits := by
  refine ⟨q, shows_b, evolves, names.evolves evolves shows.formed shows_b.formed.null, ?_⟩
  intro v ran
  exact fit v (ok_of_mapError ran)

theorem quietly_onArena (shows : a.Shows p) (names : n.Fits p) {x : ArenaStep α}
    {fits : Heap → α → Prop} (quiet : a.Quietly p x fits) :
    Quietly n a p (onArena x) fun q v => fits q.heap v := by
  obtain ⟨q, shows_b, evolves, fit⟩ := quiet
  exact quietly_onArena_of shows names shows_b evolves fit

theorem quietly_reading (shows : a.Shows p) (names : n.Fits p) (fits : Picture → α → Prop)
    {f : Arena → Except MemoryError α} (fit : ∀ v, f a = .ok v → fits p v) :
    Quietly n a p (reading f) fits :=
  quietly_onArena_of shows names shows (.refl p) fit

theorem quietly_look (shows : a.Shows p) (names : n.Fits p) (f : Arena → Except MemoryError α) :
    Quietly n a p (reading f) fun _ _ => True :=
  quietly_reading shows names _ fun _ _ => trivial

end Command
end ValueArena
