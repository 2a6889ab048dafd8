import ValueArena.Proofs.Registry.Registrations
import ValueArena.Proofs.Run.Creation

/-!
Functions, native objects and native functions resolved by a registry. A value that was created with
an index resolves, after whatever program, to the name that was registered last under that index in
the table of its own kind.
-/
namespace ValueArena

variable {T : Type → Type → Type} [KeyMap T]

/-- What a registry makes of a handle by the table that the index belongs to. -/
def RegistryIndex.resolve (index : RegistryIndex) (r : Registry T) (a : Arena) (h : Handle) :
    Except MemoryError (Option String) :=
  match index with
  | .function _ => r.resolveFunction a h
  | .nativeObject _ => r.resolveObject a h
  | .nativeFunction _ => r.resolveNative a h

/-- The registry that these registrations build on such maps resolves the handle as the index.
Registrations in other tables do not matter, and handles of other kinds are refused by every
table. -/
structure Registry.Resolves (T : Type → Type → Type) [KeyMap T] (calls : List Registration)
    (a : Arena) (index : RegistryIndex) (h : Handle) : Prop where
  found : ∀ name, index.resolve (built T calls) a h = .ok (some name) ↔
    Registration.IsLast calls index name
  missing : index.resolve (built T calls) a h = .ok none ↔ ∀ call ∈ calls, call.index ≠ index
  answers : ∃ result, index.resolve (built T calls) a h = .ok result
  apart : ∀ others : List Registration,
    (others.filter fun call => call.index.kind = index.kind) =
        calls.filter (fun call => call.index.kind = index.kind) →
      index.resolve (built T others) a h = index.resolve (built T calls) a h
  refuses : ∀ (table : RegistryIndex) (g : Handle), g.kind ≠ table.kind →
    table.resolve (built T calls) a g = .error (.kindMismatch table.kind g.kind)
  size : (built T calls).size = (calls.map (·.index)).toFinset.card

theorem Handle.require_of_kind_ne {h : Handle} {kind : Kind} (other : h.kind ≠ kind) :
    h.require kind = .error (.kindMismatch kind h.kind) := by
  cases required : h.require kind with
  | ok d =>
    obtain ⟨rfl, same, _⟩ := require_ok required
    exact absurd same other
  | error e => rw [require_error required]

namespace RegistryIndex

variable {a : Arena} {heap : Heap} {addr : Addr}

theorem resolve_of_kind_ne (index : RegistryIndex) (r : Registry T) (a : Arena) {h : Handle}
    (other : h.kind ≠ index.kind) :
    index.resolve r a h = .error (.kindMismatch index.kind h.kind) := by
  have refused := Handle.require_of_kind_ne other
  cases index with
  | function f =>
    have refused : h.require .function = _ := refused
    simp only [resolve, Registry.resolveFunction, Arena.readFunction, refused]
    rfl
  | nativeObject i =>
    have refused : h.require .nativeObject = _ := refused
    simp only [resolve, Registry.resolveObject, refused]
    rfl
  | nativeFunction i =>
    have refused : h.require .nativeFunction = _ := refused
    simp only [resolve, Registry.resolveNative, refused]
    rfl

/-- A value with an index resolves to what stands under the index. -/
theorem resolve_of_holds (index : RegistryIndex) (r : Registry T) (holds : a.store.Holds heap)
    (found : heap addr = some (.plain index.content)) :
    index.resolve r a (heap.handleAt addr) = .ok (r.find? index) := by
  have lies := holds.lies found
  rw [Heap.handleAt_of_some found]
  generalize (Cell.plain index.content).size = size
  have required := (@Arena.require_of_lies a addr _ size lies index.kind).trans (if_pos rfl)
  have native := @Arena.readNativeIndex_of_lies a addr _ size lies
  cases index with
  | function f =>
    have read := @Arena.readFunction_of_lies a addr _ size lies
    exact congrArg (· >>= fun f => pure (KeyMap.find? r.functions f)) read
  | nativeObject i =>
    exact congrArg₂ (fun x y => x >>= fun _ => y >>= fun i => pure (KeyMap.find? r.objects i))
      required native
  | nativeFunction i =>
    exact congrArg₂ (fun x y => x >>= fun _ => y >>= fun i => pure (KeyMap.find? r.natives i))
      required native

end RegistryIndex

namespace Registry

variable [LawfulKeyMap T] {a : Arena} {heap : Heap} {addr : Addr}

theorem resolves_of_holds (calls : List Registration) (index : RegistryIndex)
    (holds : a.store.Holds heap) (found : heap addr = some (.plain index.content)) :
    Resolves T calls a index (heap.handleAt addr) := by
  have resolved := fun calls => index.resolve_of_holds (built T calls) holds found
  constructor
  · intro name
    rw [resolved, Except.ok.injEq, find?_built_eq_some_iff]
  · rw [resolved, Except.ok.injEq, find?_built_eq_none_iff]
  · exact ⟨_, resolved calls⟩
  · intro others same
    rw [resolved, resolved, ← find?_built_filter others, same, find?_built_filter]
  · intro table g other
    exact table.resolve_of_kind_ne _ a other
  · exact size_built calls

end Registry

namespace Statement

/-- Whatever runs later, a value that was created with an index resolves, through its handle or that
found again at its address, to what was registered last under the index. -/
theorem resolves_after [LawfulKeyMap T] (r : Registry T) (config : Config)
    (before later : List Statement) (s : Statement) (index : RegistryIndex) (h : Handle)
    (calls : List Registration) (allowed : ∀ t ∈ before ++ later, t.command.isPublic = true)
    (creates : s.command = .create index.content)
    (made : (s.run r (after r config before)).1 = .ok (.handle h)) :
    let last := (runAll r later (s.run r (after r config before)).2).2
    last.2.decode h.addr = .ok h ∧ Registry.Resolves T calls last.2 index h := by
  obtain ⟨p, shows, names, _⟩ :=
    after_shows r config fun t member => allowed t (List.mem_append_left _ member)
  have created : s.command.createdKind? = some index.kind := by
    rw [creates]
    rfl
  obtain ⟨q, shows_q, names_q, named, c, found, _, content⟩ := hands_run r shows names created made
  obtain rfl := content _ creates
  obtain ⟨t, shows_t, _, _, grows⟩ := runAll_keeps r _ (fun t => q.heap.Grows t.heap)
    (fun _ _ _ _ _ _ _ _ _ _ _ _ _ advances grows => grows.trans advances.evolves.grows) later
    (fun t member => allowed t (List.mem_append_right _ member)) shows_q names_q
    (Nat.lt_succ_self _) (throughout_of_forall r (fun _ _ _ => trivial) _) (.refl _)
  have found_t := grows.kept found (by cases index <;> rfl)
  have named_t : h = t.heap.handleAt h.addr := named.trans (grows.handleAt found).symm
  have decoded := Arena.decode_of_holds shows_t.holds found_t
  have resolves : Registry.Resolves T calls _ index _ :=
    Registry.resolves_of_holds calls index shows_t.holds found_t
  rw [← named_t] at decoded resolves
  exact ⟨decoded, resolves⟩

/-- A function, a native object and a native function that share the numbers of their indices. -/
def callsSample : List Registration :=
  [⟨.function ⟨2, 1⟩, "first"⟩, ⟨.nativeObject 2, "object"⟩, ⟨.function ⟨2, 1⟩, "last"⟩,
   ⟨.nativeFunction 2, "native"⟩, ⟨.function ⟨1, 2⟩, "swapped"⟩]

def functionStatement : Statement := ⟨some "function", .create (.function ⟨2, 1⟩)⟩

theorem resolves_after_callsSample : ∃ h,
    (functionStatement.run .empty (after .empty ⟨64, none⟩ sample)).1 = .ok (.handle h) ∧
      Registry.Resolves Table callsSample (runAll .empty textSample
        (functionStatement.run .empty (after .empty ⟨64, none⟩ sample)).2).2.2
        (.function ⟨2, 1⟩) h ∧
      Registration.IsLast callsSample (.function ⟨2, 1⟩) "last" ∧
      (Registry.built Table callsSample).size = 4 := by
  have some_handle : (handle? (functionStatement.run .empty
      (after .empty ⟨64, none⟩ sample)).1).isSome = true := by decide +kernel
  obtain ⟨h, found⟩ := Option.isSome_iff_exists.mp some_handle
  have made := eq_of_handle? found
  obtain ⟨_, resolves⟩ := resolves_after .empty ⟨64, none⟩ sample textSample functionStatement
    (.function ⟨2, 1⟩) h callsSample (by decide) rfl made
  exact ⟨h, made, resolves,
    ⟨callsSample.take 2, callsSample.drop 3, rfl, by decide⟩, by decide⟩

end Statement
end ValueArena
