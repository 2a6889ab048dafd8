import ValueArena.Collection.ObjectView
import ValueArena.Proofs.Mirror.Lists

/-!
Views of objects in arenas that mirror each other. What is done to an object is done to the views of
its two lists, so that it agrees because they do.
-/
namespace ValueArena

namespace Mirror

/-- Two views of one object. -/
structure SameObject (M : Mirror) (o q : ObjectView) : Prop where
  handle : M.Same o.handle q.handle
  keys : M.SameView o.keys q.keys
  values : M.SameView o.values q.values

variable {M N : Mirror} {a b : Arena} {g h g' h' : Handle} {o q : ObjectView}
  {R : Mirror → α → β → Prop}

theorem SameObject.leads (same : M.SameObject o q) (leads : M.Leads N) (sound : M.Sound) :
    N.SameObject o q :=
  ⟨same.handle.leads leads sound, same.keys.leads leads sound, same.values.leads leads sound⟩

section Parts

variable (same : M.SameObject o q)
include same

theorem agree_onKeys {x : Step MemoryError ListView α} {y : Step MemoryError ListView β}
    (agree : Agree (M.beside SameView) M x y R o.keys q.keys) :
    Agree (M.beside SameObject) M (ObjectView.onKeys x) (ObjectView.onKeys y) R o q := by
  refine agree.lift nofun rfl rfl ?_
  rintro N _ ⟨rfl, keys⟩
  exact ⟨rfl, same.handle, keys, same.values⟩

theorem agree_onValues {x : Step MemoryError ListView α} {y : Step MemoryError ListView β}
    (agree : Agree (M.beside SameView) M x y R o.values q.values) :
    Agree (M.beside SameObject) M (ObjectView.onValues x) (ObjectView.onValues y) R o q := by
  refine agree.lift nofun rfl rfl ?_
  rintro N _ ⟨rfl, values⟩
  exact ⟨rfl, same.handle, same.keys, values⟩

variable (mirrors : M.Mirrors a b)
include mirrors

theorem agree_objectReading {x : Arena → Step MemoryError ObjectView α}
    {y : Arena → Step MemoryError ObjectView β}
    (agree : Agree (M.beside SameObject) M (x a) (y b) R o q) :
    Agree (along SameObject) M (ObjectView.reading x) (ObjectView.reading y) R (o, a) (q, b) := by
  refine agree.lift nofun rfl rfl ?_
  rintro N _ ⟨rfl, same⟩
  exact ⟨mirrors, same⟩

theorem agree_changingKeys {x : ListStep α} {y : ListStep β}
    (agree : Agree (along SameView) M x y R (o.keys, a) (q.keys, b)) :
    Agree (along SameObject) M (ObjectView.changingKeys x) (ObjectView.changingKeys y) R (o, a)
      (q, b) := by
  refine agree.lift (fun _ lacks => lacks) rfl rfl ?_
  rintro N leads ⟨mirrors', keys⟩
  exact ⟨mirrors', same.handle.leads leads mirrors.sound, keys,
    same.values.leads leads mirrors.sound⟩

theorem agree_changingValues {x : ListStep α} {y : ListStep β}
    (agree : Agree (along SameView) M x y R (o.values, a) (q.values, b)) :
    Agree (along SameObject) M (ObjectView.changingValues x) (ObjectView.changingValues y) R (o, a)
      (q, b) := by
  refine agree.lift (fun _ lacks => lacks) rfl rfl ?_
  rintro N leads ⟨mirrors', values⟩
  exact ⟨mirrors', same.handle.leads leads mirrors.sound, same.keys.leads leads mirrors.sound,
    values⟩

end Parts

variable (mirrors : M.Mirrors a b)
include mirrors

/-- Handles that name an object on both sides open to views of it. -/
theorem objectView_same (same : M.Same g h) :
    Outcome M.SameObject (ObjectView.ofHandle a g) (ObjectView.ofHandle b h) := by
  refine (require_same mirrors same .object).bind ?_
  rintro d e ⟨object, rfl, rfl⟩
  refine (objectKeys_same mirrors object).bind ?_
  intro x y at_keys
  refine (objectValues_same mirrors object).bind ?_
  intro x' y' at_values
  refine (decode_same mirrors (.inr at_keys.1)).bind ?_
  intro g h keys
  refine (ofHandle_same mirrors keys).bind ?_
  intro v w keys
  refine (decode_same mirrors (.inr at_values.1)).bind ?_
  intro g h values
  refine (ofHandle_same mirrors values).bind ?_
  intro v' w' values
  exact .ok ⟨same, keys, values⟩

theorem agree_objectCreate :
    Agree arenas M ObjectView.create ObjectView.create SameObject a b := by
  refine (agree_createObject mirrors).bind ?_
  intro N a b g h _ (mirrors : N.Mirrors a b) ⟨same, _⟩
  exact agree_view mirrors (objectView_same mirrors same)

theorem agree_addKey (same : M.SameObject o q) (key : String) :
    Agree (along SameObject) M (ObjectView.addKey key) (ObjectView.addKey key) Same (o, a)
      (q, b) := by
  refine ((agree_room mirrors _ _ _ _).onSecond fun _ leads =>
    same.leads leads mirrors.sound).bind ?_
  rintro N₁ ⟨o, a⟩ ⟨q, b⟩ _ _ _ ⟨mirrors₁, same₁⟩ _
  refine ((agree_createString mirrors₁ key).onSecond fun _ leads =>
    same₁.leads leads mirrors₁.sound).bind ?_
  rintro N₂ ⟨o, a⟩ ⟨q, b⟩ text text' _ ⟨mirrors₂, same₂⟩ at_text
  refine (agree_changingKeys same₂ mirrors₂ (agree_append mirrors₂ same₂.keys at_text)).bind ?_
  rintro N₃ ⟨o, a⟩ ⟨q, b⟩ _ _ _ ⟨mirrors₃, same₃⟩ _
  exact agree_changingValues same₃ mirrors₃ (agree_append mirrors₃ same₃.values .vacant)

theorem agree_objectIndexOf (same : M.SameObject o q) (key : String) :
    Agree (M.beside SameObject) M (ObjectView.indexOf a key) (ObjectView.indexOf b key)
      (fun _ i j => i = j) o q :=
  agree_onKeys same (agree_indexOfText mirrors same.keys key)

/-- A key has the same place on both sides, or is missing from both. -/
theorem agree_position (same : M.SameObject o q) (key : String) :
    Agree (M.beside SameObject) M (ObjectView.position a key) (ObjectView.position b key)
      (fun _ i j => i = j) o q := by
  refine (agree_objectIndexOf mirrors same key).bind ?_
  rintro N o q index _ _ states rfl
  cases index with
  | some index => exact agree_pure states rfl
  | none => exact agree_fail states (MemoryError.keyNotFound key)

theorem agree_hasKey (same : M.SameObject o q) (key : String) :
    Agree (M.beside SameObject) M (ObjectView.hasKey a key) (ObjectView.hasKey b key)
      (fun _ i j => i = j) o q :=
  (agree_objectIndexOf mirrors same key).map fun _ _ _ same => congrArg Option.isSome same

theorem agree_slot (same : M.SameObject o q) (key : String) :
    Agree (M.beside SameObject) M (ObjectView.slot a key) (ObjectView.slot b key) Same
      o q := by
  refine (agree_position mirrors same key).bind ?_
  rintro N o q index _ _ ⟨rfl, same⟩ rfl
  exact agree_onValues same (agree_item mirrors same.values index)

theorem agree_objectGet (same : M.SameObject o q) (key : String) :
    Agree (M.beside SameObject) M (ObjectView.get a key) (ObjectView.get b key) Same
      o q := by
  refine (agree_position mirrors same key).bind ?_
  rintro N o q index _ _ ⟨rfl, same⟩ rfl
  exact agree_onValues same (agree_get mirrors same.values index)

theorem agree_setSlot (same : M.SameObject o q) (item : M.Same g h) (value : M.Same g' h') :
    Agree (along SameObject) M (ObjectView.setSlot g g') (ObjectView.setSlot h h')
      (fun _ _ _ => True) (o, a) (q, b) :=
  agree_changingValues same mirrors (agree_setContent mirrors same.values item value)

theorem agree_set (same : M.SameObject o q) (key : String) (value : M.Same g h) :
    Agree (along SameObject) M (ObjectView.set key g) (ObjectView.set key h) (fun _ _ _ => True)
      (o, a) (q, b) := by
  refine (agree_objectReading same mirrors (agree_position mirrors same key)).bind ?_
  rintro N ⟨o, a⟩ ⟨q, b⟩ index _ leads ⟨mirrors', same⟩ rfl
  exact agree_changingValues same mirrors'
    (agree_setContentAt mirrors' same.values index (value.leads leads mirrors.sound))

end Mirror
end ValueArena
