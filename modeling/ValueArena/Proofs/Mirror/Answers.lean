import ValueArena.Program.Answer
import ValueArena.Proofs.Mirror.Objects

/-!
Answers of two runs. Once addresses are forgotten they are equal; the handles in them stand one by
one for paired values. Names are bound on both sides to what corresponds, or on neither.
-/
namespace ValueArena

/-- All that is left of an address: whether it is null. -/
def Addr.forget (x : Addr) : Addr := if x.isNull then .null else ⟨0x100000000⟩

def Descriptor.forget (d : Descriptor) : Descriptor := { d with addr := d.addr.forget }

def Handle.forget : Handle → Handle
  | .immediate v => .immediate v
  | .stored d => .stored d.forget

def ListView.forget (v : ListView) : ListView :=
  ⟨v.header.forget, v.items.map Handle.forget, v.values.map Handle.forget, v.builtAt⟩

def ObjectView.forget (o : ObjectView) : ObjectView :=
  ⟨o.header.forget, o.keys.forget, o.values.forget⟩

def ListDescription.forget (d : ListDescription) : ListDescription :=
  { d with handle := d.handle.forget }

/-- The handles that a view shows: of its list, and what it remembers. -/
def ListView.shown (v : ListView) : List Handle :=
  v.handle :: (v.items.toList ++ v.values.toList)

namespace Answer

def forget : Answer → Answer
  | .handle h => .handle h.forget
  | .list v => .list v.forget
  | .object o => .object o.forget
  | .handles hs => .handles (hs.map Handle.forget)
  | .description h => .description h.forget
  | .target h => .target h.forget
  | .scanned found => .scanned (found.map (·.map Handle.forget))
  | .listDescription d => .listDescription d.forget
  | .objectDescription size keys values => .objectDescription size keys.forget values.forget
  | answer => answer

/-- All handles of an answer, in order. -/
def shown : Answer → List Handle
  | .handle h | .description h | .target h => [h]
  | .list v => v.shown
  | .object o => o.handle :: (o.keys.shown ++ o.values.shown)
  | .handles hs => hs
  | .scanned found => found.filterMap Except.toOption
  | .listDescription d => [d.handle]
  | .objectDescription _ keys values => [keys.handle, values.handle]
  | _ => []

end Answer

namespace Mirror

structure SameDescription (M : Mirror) (d e : ListDescription) : Prop where
  handle : M.Same d.handle e.handle
  rest : d.count = e.count ∧ d.cachedItems = e.cachedItems ∧ d.cachedValues = e.cachedValues

inductive SameAnswer (M : Mirror) : Answer → Answer → Prop
  | handle {g h : Handle} (same : M.Same g h) : SameAnswer M (.handle g) (.handle h)
  | list {v w : ListView} (same : M.SameView v w) : SameAnswer M (.list v) (.list w)
  | object {o q : ObjectView} (same : M.SameObject o q) : SameAnswer M (.object o) (.object q)
  | handles {gs hs : List Handle} (same : List.Forall₂ M.Same gs hs) :
      SameAnswer M (.handles gs) (.handles hs)
  | description {g h : Handle} (same : M.Same g h) : SameAnswer M (.description g) (.description h)
  | target {g h : Handle} (same : M.Same g h) : SameAnswer M (.target g) (.target h)
  | listDescription {d e : ListDescription} (same : M.SameDescription d e) :
      SameAnswer M (.listDescription d) (.listDescription e)
  | objectDescription (size : UInt32) {keys keys' values values' : ListDescription}
      (same_keys : M.SameDescription keys keys') (same_values : M.SameDescription values values') :
      SameAnswer M (.objectDescription size keys values) (.objectDescription size keys' values')
  | plain (answer : Answer) (none : answer.shown = []) : SameAnswer M answer answer

variable {M N : Mirror} {g h : Handle} {x y : Addr} {v w : ListView} {o q : ObjectView}
  {left right : Answer}

theorem Link.forget (link : M.Link x y) (sound : M.Sound) : x.forget = y.forget := by
  have null : x.isNull = y.isNull := by
    rw [Bool.eq_iff_iff, Addr.isNull_iff, Addr.isNull_iff, link.null_iff sound]
  rw [Addr.forget, Addr.forget, null]

theorem Same.forget (same : M.Same g h) (sound : M.Sound) : g.forget = h.forget := by
  cases same with
  | immediate v => rfl
  | vacant => rfl
  | cell paired left right =>
    obtain ⟨c, d, _, _, _, at_left, at_right⟩ := sound.handles paired
    rw [left, right, at_left, at_right]
    simp only [Handle.forget, Descriptor.forget, Link.forget (.inr paired) sound]

theorem forget_handles {gs hs : List Handle} (same : List.Forall₂ M.Same gs hs) (sound : M.Sound) :
    gs.map Handle.forget = hs.map Handle.forget := by
  induction same with
  | nil => rfl
  | cons here _ ih => rw [List.map_cons, List.map_cons, here.forget sound, ih]

theorem SameView.forget (same : M.SameView v w) (sound : M.Sound) : v.forget = w.forget := by
  have header : v.header.forget = w.header.forget :=
    Handle.stored.inj (same.handle.forget sound)
  have items : v.items.map Handle.forget = w.items.map Handle.forget := by
    rw [← Array.toList_inj, Array.toList_map, Array.toList_map, forget_handles same.items sound]
  have values : v.values.map Handle.forget = w.values.map Handle.forget := by
    rw [← Array.toList_inj, Array.toList_map, Array.toList_map, forget_handles same.values sound]
  rw [ListView.forget, ListView.forget, header, items, values, same.built]

theorem SameObject.forget (same : M.SameObject o q) (sound : M.Sound) : o.forget = q.forget := by
  have header : o.header.forget = q.header.forget :=
    Handle.stored.inj (same.handle.forget sound)
  rw [ObjectView.forget, ObjectView.forget, header, same.keys.forget sound,
    same.values.forget sound]

theorem SameDescription.forget {d e : ListDescription} (same : M.SameDescription d e)
    (sound : M.Sound) : d.forget = e.forget := by
  obtain ⟨count, items, values⟩ := same.rest
  rw [ListDescription.forget, ListDescription.forget, same.handle.forget sound, count, items,
    values]

/-- Answers differ in nothing but addresses. -/
theorem SameAnswer.forget (same : M.SameAnswer left right) (sound : M.Sound) :
    left.forget = right.forget := by
  cases same with
  | handle same => exact congrArg Answer.handle (same.forget sound)
  | list same => exact congrArg Answer.list (same.forget sound)
  | object same => exact congrArg Answer.object (same.forget sound)
  | handles same => exact congrArg Answer.handles (forget_handles same sound)
  | description same => exact congrArg Answer.description (same.forget sound)
  | target same => exact congrArg Answer.target (same.forget sound)
  | listDescription same => exact congrArg Answer.listDescription (same.forget sound)
  | objectDescription size keys values =>
    rw [Answer.forget, Answer.forget, keys.forget sound, values.forget sound]
  | plain => rfl

theorem SameView.shown (same : M.SameView v w) : List.Forall₂ M.Same v.shown w.shown :=
  .cons same.handle (List.rel_append same.items same.values)

theorem SameAnswer.shown (same : M.SameAnswer left right) :
    List.Forall₂ M.Same left.shown right.shown := by
  cases same with
  | handle same | description same | target same => exact .cons same .nil
  | list same => exact same.shown
  | object same => exact .cons same.handle (List.rel_append same.keys.shown same.values.shown)
  | handles same => exact same
  | listDescription same => exact .cons same.handle .nil
  | objectDescription size keys values => exact .cons keys.handle (.cons values.handle .nil)
  | plain _ none =>
    rw [none]
    exact .nil

/-- Every name stands for what corresponds, or for nothing on both sides. -/
structure SameNames (M : Mirror) (n m : Names) : Prop where
  handles : ∀ name, Option.Rel M.Same (n.handles.find? name) (m.handles.find? name)
  lists : ∀ name, Option.Rel M.SameView (n.lists.find? name) (m.lists.find? name)
  objects : ∀ name, Option.Rel M.SameObject (n.objects.find? name) (m.objects.find? name)

variable {n m : Names}

theorem empty_sameNames (M : Mirror) : M.SameNames .empty .empty :=
  ⟨fun _ => .none, fun _ => .none, fun _ => .none⟩

theorem rel_imp {R S : α → α → Prop} {u v : Option α} (rel : Option.Rel R u v)
    (weaker : ∀ u v, R u v → S u v) : Option.Rel S u v := by
  cases rel with
  | some related => exact .some (weaker _ _ related)
  | none => exact .none

theorem SameNames.leads (same : M.SameNames n m) (leads : M.Leads N) (sound : M.Sound) :
    N.SameNames n m :=
  ⟨fun name => rel_imp (same.handles name) fun _ _ same => same.leads leads sound,
    fun name => rel_imp (same.lists name) fun _ _ same => same.leads leads sound,
    fun name => rel_imp (same.objects name) fun _ _ same => same.leads leads sound⟩

/-- An entry more under one name. -/
theorem rel_insert {R : α → α → Prop} {t u : Table String α}
    (same : ∀ name, Option.Rel R (t.find? name) (u.find? name)) (name : String) {v w : α}
    (related : R v w) (other : String) :
    Option.Rel R ((t.insert name v).find? other) ((u.insert name w).find? other) := by
  rw [Table.find?_insert, Table.find?_insert]
  split
  · exact .some related
  · exact same other

theorem SameNames.keep (same : M.SameNames n m) (name : String)
    (answers : M.SameAnswer left right) : M.SameNames (n.keep name left) (m.keep name right) := by
  cases answers with
  | handle here => exact ⟨rel_insert same.handles name here, same.lists, same.objects⟩
  | list here => exact ⟨same.handles, rel_insert same.lists name here, same.objects⟩
  | object here => exact ⟨same.handles, same.lists, rel_insert same.objects name here⟩
  | plain _ none =>
    cases left with
    | handle | list | object => cases none
    | _ => exact same
  | _ => exact same

end Mirror
end ValueArena
