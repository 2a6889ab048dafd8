import Mathlib.Data.Finset.Card
import Mathlib.Data.Finset.Dedup
import ValueArena.Proofs.Heap.Cell
import ValueArena.Registry

/-!
Registries as what has been registered. Of several names under one index the last one counts, and an
index of one table is no index of another.
-/
namespace ValueArena

/-- A table and an index of it. -/
inductive RegistryIndex where
  | function (f : FunctionRef)
  | nativeObject (index : UInt32)
  | nativeFunction (index : UInt32)
  deriving DecidableEq, Repr

namespace RegistryIndex

/-- The value that stands for what is registered there. -/
def content : RegistryIndex → Content
  | .function f => .function f
  | .nativeObject index => .nativeObject index
  | .nativeFunction index => .nativeFunction index

/-- The kind of the values that refer to the table. -/
def kind (index : RegistryIndex) : Kind := index.content.kind

end RegistryIndex

structure Registration where
  index : RegistryIndex
  name : String
  deriving DecidableEq, Repr

/-- The last registration under the index is under this name. -/
def Registration.IsLast (calls : List Registration) (index : RegistryIndex) (name : String) :
    Prop :=
  ∃ earlier later, calls = earlier ++ ⟨index, name⟩ :: later ∧ ∀ call ∈ later, call.index ≠ index

theorem Registration.isLast_cons {call : Registration} {calls : List Registration}
    {index : RegistryIndex} {name : String} : IsLast (call :: calls) index name ↔
      IsLast calls index name ∨
        (∀ other ∈ calls, other.index ≠ index) ∧ call.index = index ∧ call.name = name := by
  constructor
  · intro last
    obtain ⟨earlier, later, split, none⟩ := last
    cases earlier with
    | nil =>
      obtain ⟨rfl, rfl⟩ := List.cons_eq_cons.mp split
      exact .inr ⟨none, rfl, rfl⟩
    | cons first earlier =>
      obtain ⟨rfl, rfl⟩ := List.cons_eq_cons.mp split
      exact .inl ⟨earlier, later, rfl, none⟩
  · rintro (⟨earlier, later, rfl, none⟩ | ⟨none, rfl, rfl⟩)
    · exact ⟨call :: earlier, later, rfl, none⟩
    · exact ⟨[], calls, rfl, none⟩

namespace Registry

variable {T : Type → Type → Type} [KeyMap T]

def register (r : Registry T) (call : Registration) : Registry T :=
  match call.index with
  | .function f => r.addFunction f call.name
  | .nativeObject index => r.addObject index call.name
  | .nativeFunction index => r.addNative index call.name

/-- The registry after these registrations in order. -/
def built (T : Type → Type → Type) [KeyMap T] (calls : List Registration) : Registry T :=
  calls.foldl register (.empty T)

def find? (r : Registry T) : RegistryIndex → Option String
  | .function f => KeyMap.find? r.functions f
  | .nativeObject index => KeyMap.find? r.objects index
  | .nativeFunction index => KeyMap.find? r.natives index

theorem built_append (calls : List Registration) (call : Registration) :
    built T (calls ++ [call]) = (built T calls).register call := by
  rw [built, List.foldl_append]
  rfl

variable [LawfulKeyMap T] {calls : List Registration} {index : RegistryIndex}

theorem find?_empty (index : RegistryIndex) : (empty T).find? index = none := by
  cases index <;> exact LawfulKeyMap.find?_empty _

theorem size_empty : (empty T).size = 0 := by simp only [size, empty, LawfulKeyMap.size_empty]

theorem find?_register (r : Registry T) (call : Registration) (index : RegistryIndex) :
    (r.register call).find? index =
      if index = call.index then some call.name else r.find? index := by
  obtain ⟨target, name⟩ := call
  cases target <;> cases index <;>
    simp [register, find?, addFunction, addObject, addNative, LawfulKeyMap.find?_insert]

/-- The first name under an index makes the registry larger, any other takes the place of one. -/
theorem size_register (r : Registry T) (call : Registration) :
    (r.register call).size = if (r.find? call.index).isSome then r.size else r.size + 1 := by
  obtain ⟨target, name⟩ := call
  cases target with
  | function f =>
    simp only [register, addFunction, size, find?, LawfulKeyMap.size_insert]
    grind
  | nativeObject index =>
    simp only [register, addObject, size, find?, LawfulKeyMap.size_insert]
    grind
  | nativeFunction index =>
    simp only [register, addNative, size, find?, LawfulKeyMap.size_insert]
    grind

theorem find?_foldl_eq_none_iff (r : Registry T) :
    (calls.foldl register r).find? index = none ↔
      (∀ call ∈ calls, call.index ≠ index) ∧ r.find? index = none := by
  induction calls generalizing r with
  | nil => simp
  | cons call calls ih =>
    rw [List.foldl_cons, ih, find?_register]
    by_cases same : index = call.index
    · simp [same]
    · simp [same, Ne.symm same]

/-- A name is from the last registration of its index, or was there and none of them is of it. -/
theorem find?_foldl_eq_some_iff (r : Registry T) {name : String} :
    (calls.foldl register r).find? index = some name ↔ Registration.IsLast calls index name ∨
      (∀ call ∈ calls, call.index ≠ index) ∧ r.find? index = some name := by
  induction calls generalizing r with
  | nil => simp [Registration.IsLast]
  | cons call calls ih =>
    rw [List.foldl_cons, ih, find?_register, Registration.isLast_cons]
    by_cases same : index = call.index
    · subst same
      simp
    · simp [same, Ne.symm same]

theorem find?_built_eq_none_iff :
    (built T calls).find? index = none ↔ ∀ call ∈ calls, call.index ≠ index := by
  rw [built, find?_foldl_eq_none_iff, find?_empty]
  simp

/-- What was registered last counts. -/
theorem find?_built_eq_some_iff {name : String} :
    (built T calls).find? index = some name ↔ Registration.IsLast calls index name := by
  rw [built, find?_foldl_eq_some_iff, find?_empty]
  simp

/-- Only registrations in the table of the index count. -/
theorem find?_built_filter (calls : List Registration) (index : RegistryIndex) :
    (built T (calls.filter fun call => call.index.kind = index.kind)).find? index =
      (built T calls).find? index := by
  induction calls using List.reverseRecOn with
  | nil => rfl
  | append_singleton calls call ih =>
    rw [built_append, find?_register, List.filter_append]
    by_cases same : call.index.kind = index.kind
    · have last : [call].filter (fun call => call.index.kind = index.kind) = [call] := by
        simp [same]
      rw [last, built_append, find?_register, ih]
    · have other : index ≠ call.index := fun eq => same (congrArg RegistryIndex.kind eq.symm)
      have last : [call].filter (fun call => call.index.kind = index.kind) = [] := by simp [same]
      rw [last, List.append_nil, ih, if_neg other]

theorem isSome_find?_built :
    ((built T calls).find? index).isSome = true ↔ index ∈ calls.map (·.index) := by
  rw [← not_iff_not, Bool.not_eq_true, Option.isSome_eq_false_iff, Option.isNone_iff_eq_none,
    find?_built_eq_none_iff]
  simp

/-- The size counts the indices under which anything was registered. -/
theorem size_built (calls : List Registration) :
    (built T calls).size = (calls.map (·.index)).toFinset.card := by
  induction calls using List.reverseRecOn with
  | nil => exact size_empty
  | append_singleton calls call ih =>
    have with_last : ((calls ++ [call]).map (·.index)).toFinset =
        insert call.index (calls.map (·.index)).toFinset := by
      ext index
      simp [eq_comm]
    rw [built_append, size_register, with_last, Finset.card_insert_eq_ite, ih]
    simp only [isSome_find?_built, List.mem_toFinset]

end Registry
end ValueArena
