import ValueArena.Arena.Assignment
import ValueArena.Arena.Arithmetic
import ValueArena.Arena.Writing
import ValueArena.Proofs.Heap.Creation
import ValueArena.Proofs.Run.Counters

/-!
Numbers overwritten, computed and assigned, with handles from anywhere. Whatever can go wrong goes
wrong before the first byte is written, so a failure leaves the arena as it was, and an assignment
its target.
-/
namespace ValueArena

variable {T : Type → Type → Type} [KeyMap T]

namespace Step

/-- From this state the operation succeeds or changes nothing. -/
def Atomic (s : σ) (x : Step ε σ α) : Prop := ∀ e t, x s = (.error e, t) → t = s

variable {s : σ} {x : Step ε σ α} {f : α → Step ε σ β}

theorem atomic_of_stays (stays : (x s).2 = s) : Atomic s x := by
  intro e t failed
  rw [failed] at stays
  exact stays

theorem atomic_update (f : σ → Except ε σ) : Atomic s (.update f) := by
  intro e t failed
  unfold update at failed
  split at failed
  · cases failed
  · cases failed
    rfl

/-- An operation that only looks may come first. -/
theorem atomic_bind (stays : (x s).2 = s) (next : ∀ v, (x s).1 = .ok v → Atomic s (f v)) :
    Atomic s (x >>= f) := by
  intro e t failed
  obtain ⟨result, u, ran⟩ : ∃ result u, x s = (result, u) := ⟨_, _, rfl⟩
  rw [ran] at stays next
  cases stays
  rcases bind_eq_error_iff.mp failed with first | ⟨v, u, went, last⟩
  · rw [ran] at first
    cases first
    rfl
  · rw [ran] at went
    cases went
    exact next v rfl e t last

/-- What is returned makes no difference. -/
theorem Atomic.returning (atomic : Atomic s x) (g : α → β) :
    Atomic s (x >>= fun v => pure (g v)) := by
  intro e t failed
  rcases bind_eq_error_iff.mp failed with first | ⟨v, u, _, last⟩
  · exact atomic e t first
  · cases last

theorem Atomic.within {part : σ → τ} {put : τ → σ → σ} {x : Step ε τ α}
    (atomic : Atomic (part s) x) (back : put (part s) s = s) : Atomic s (.within part put x) := by
  intro e t failed
  obtain ⟨result, u, ran⟩ : ∃ result u, x (part s) = (result, u) := ⟨_, _, rfl⟩
  simp only [Step.within, ran] at failed
  cases failed
  rw [atomic e u ran, back]

end Step

namespace Arena

open Step

/-- An operation on numbers that fails leaves the arena as it was, whatever handles it is given, and
an assignment that fails its target too. -/
structure WritesAtomically (a : Arena) : Prop where
  assign : ∀ (target : Handle) (source : Source) e left,
    ValueArena.assign source (target, a) = (.error e, left) → left = (target, a)
  apply : ∀ (op : Operation) (target : Handle) (source : Source) e b,
    apply op target source a = (.error e, b) → b = a
  setInteger : ∀ (h : Handle) (v : Int32) e b, setInteger h v a = (.error e, b) → b = a
  setLong : ∀ (h : Handle) (v : Int64) e b, setLong h v a = (.error e, b) → b = a
  setDouble : ∀ (h : Handle) (v : Binary64) e b, setDouble h v a = (.error e, b) → b = a

variable {a : Arena}

theorem atomic_write [FixedWidth α] (addr : Addr) (v : α) : Atomic a (write addr v) := by
  unfold write onStore
  exact (atomic_update _).within rfl

theorem atomic_setPayload [FixedWidth α] (kind : Kind) (h : Handle) (v : α) :
    Atomic a (setPayload kind h v) := by
  apply atomic_bind rfl
  intro d _
  exact atomic_write d.payload v

theorem atomic_apply (op : Operation) (target : Handle) (source : Source) :
    Atomic a (apply op target source) := by
  apply atomic_bind rfl
  intro d _
  apply atomic_bind rfl
  intro right _
  apply atomic_bind rfl
  intro left _
  exact (atomic_write d.payload _).returning _

theorem atomic_create (bounded : a.store.Bounded) (content : Content) :
    Atomic a (create content) := by
  intro e b failed
  rcases create_cases bounded content with ⟨n, m, refused, _⟩ | ⟨h, t, made, _⟩
  · rw [refused] at failed
    cases failed
    rfl
  · rw [made] at failed
    cases failed

end Arena

namespace Assignment

open Step Arena

variable {a : Arena}

theorem number_stays (unsupported : MemoryError) (ofLiteral : Binary64 → α)
    (read : Arena → Handle → Except MemoryError α) (source : Source) :
    (number unsupported ofLiteral read source a).2 = a := by
  unfold number
  split
  · rfl
  · split
    · rfl
    · rfl
  · rfl

/-- A number written over the target's is read before. -/
theorem atomic_overwrite [FixedWidth α] (old : Handle) (d : Descriptor) {x : ArenaStep α}
    (stays : (x a).2 = a) : Atomic a (do write d.payload (← x); pure old) := by
  apply atomic_bind stays
  intro v _
  exact (atomic_write d.payload v).returning _

theorem atomic_target (bounded : a.store.Bounded) (old : Handle) (source : Source) :
    Atomic a (target old source) := by
  have createDouble : ∀ v, Atomic a (createDouble v) := fun v => atomic_create bounded (.double v)
  have createString : ∀ v, Atomic a (createString v) := fun v => atomic_create bounded (.string v)
  have fails : ∀ e, Atomic a (.fail e : ArenaStep Handle) := fun e => atomic_of_stays rfl
  unfold target
  dsimp only
  split
  · split
    · exact createDouble _
    · exact createString _
    · split
      · apply atomic_bind rfl
        intro v _
        exact createDouble v
      · split
        · exact atomic_of_stays rfl
        · exact fails _
  · apply Atomic.returning
    exact atomic_of_stays (number_stays _ _ _ source)
  · apply atomic_bind rfl
    intro d _
    exact atomic_overwrite old d (number_stays _ _ _ source)
  · apply atomic_bind rfl
    intro d _
    exact atomic_overwrite old d (number_stays _ _ _ source)
  · split
    · exact createString _
    · exact createString _
    · split
      · apply atomic_bind rfl
        intro v _
        exact createString v
      · exact fails _
  · exact fails _

end Assignment

theorem Arena.writesAtomically_of_bounded {a : Arena} (bounded : a.store.Bounded) :
    a.WritesAtomically := by
  constructor
  · intro target source e left failed
    obtain ⟨result, b, ran⟩ : ∃ result b, Assignment.target target source a = (result, b) :=
      ⟨_, _, rfl⟩
    simp only [ValueArena.assign, ran] at failed
    cases result with
    | ok new => cases failed
    | error e' =>
      cases failed
      rw [Assignment.atomic_target bounded target source e b ran]
  · exact atomic_apply
  · exact atomic_setPayload .integer
  · exact atomic_setPayload .long
  · exact atomic_setPayload .double

namespace Session

/-- In every arena of a session, whatever has been asked of it. -/
theorem writesAtomically_after (config : Config) (names : Names) (registry : Registry T)
    (requests : List Request) (i : Nat) (a : Arena)
    (found : (Session.after ⟨#[.empty config], names, registry⟩ requests).arenas[i]? = some a) :
    a.WritesAtomically := by
  have bounded := bounded_after config names registry found
  exact Arena.writesAtomically_of_bounded bounded

/-- A double in an arena of one page, and one of another arena at an address that the first has
not. -/
def farSample : Session :=
  after ⟨#[.empty ⟨64, some 64⟩], .empty, .empty⟩
    [⟨0, .statement ⟨some "near", .create (.double ⟨0⟩)⟩⟩,
     ⟨0, .newArena ⟨64, none⟩⟩,
     ⟨1, .statement ⟨none, .create (.string (String.ofList (List.replicate 60 'x')))⟩⟩,
     ⟨1, .statement ⟨some "far", .create (.double ⟨0⟩)⟩⟩]

/-- A double that is not there is neither overwritten nor added nor assigned, and a text finds no
room. -/
theorem writesAtomically_after_farSample : ∃ a near far,
    farSample.arenas[0]? = some a ∧ farSample.names.handles.find? "near" = some near ∧
      farSample.names.handles.find? "far" = some far ∧
      (Arena.setDouble far ⟨0⟩ a).1.isOk = false ∧
      (Arena.apply .add near (.handle far) a).1.isOk = false ∧
      (assign (.handle far) (near, a)).1.isOk = false ∧
      (assign (.text (String.ofList (List.replicate 60 'x'))) (.none, a)).1.isOk = false ∧
      a.WritesAtomically := by
  have fails : (do
      let a ← farSample.arenas[0]?
      let near ← farSample.names.handles.find? "near"
      let far ← farSample.names.handles.find? "far"
      return [(Arena.setDouble far ⟨0⟩ a).1.isOk, (Arena.apply .add near (.handle far) a).1.isOk,
        (assign (.handle far) (near, a)).1.isOk,
        (assign (.text (String.ofList (List.replicate 60 'x'))) (.none, a)).1.isOk]) =
      some [false, false, false, false] := by decide +kernel
  simp only [Option.bind_eq_bind, Option.bind_eq_some_iff, pure, Option.some.injEq,
    List.cons.injEq, and_true] at fails
  obtain ⟨a, found, near, at_near, far, at_far, first, second, third, fourth⟩ := fails
  exact ⟨a, near, far, found, at_near, at_far, first, second, third, fourth,
    writesAtomically_after ⟨64, some 64⟩ .empty .empty _ 0 a found⟩

end Session
end ValueArena
