import ValueArena.Arena.Basic
import ValueArena.Proofs.Memory.Ceiling

/-!
Operations that reach their store through requests and writes alone and ask for its ceiling only to
find that memory lacks. What such operations are made of is such an operation, whatever part of a
larger state the store is.
-/
namespace ValueArena

/-- Where a state keeps its store, and which failures are for want of memory. -/
structure Keeper (ε σ : Type) where
  lacks : ε → Prop
  store : σ → PageStore
  under : Option Nat → σ → σ

/-- What the operation does to the store is a sequence of calls, and under a higher ceiling it does
the same unless memory lacks under the lower one. -/
structure ByCalls (K : Keeper ε σ) (x : Step ε σ α) : Prop where
  calls : ∀ s, ∃ cs : List PageStore.Call, .reserve 0 ∉ cs ∧
    K.store (x s).2 = (PageStore.callAll cs (K.store s)).2
  ceiling : ∀ s high, Above (K.store s).config.maxBytes high →
    (∃ e, K.lacks e ∧ (x s).1 = .error e) ∨ x (K.under high s) = ((x s).1, K.under high (x s).2)

namespace ByCalls

open PageStore

variable {K : Keeper ε σ} {x : Step ε σ α}

theorem congr {y : Step ε σ α} (same : ∀ s, y s = x s) (inner : ByCalls K x) : ByCalls K y :=
  (funext same : y = x) ▸ inner

theorem of_unchanged {f : σ → Except ε α} (ran : ∀ s, x s = (f s, s))
    (blind : ∀ s high, f (K.under high s) = f s) : ByCalls K x where
  calls := fun s => ⟨[], List.not_mem_nil, by rw [ran]; rfl⟩
  ceiling := fun s high _ => .inr (by rw [ran, ran, blind])

theorem pure (a : α) : ByCalls K (pure a : Step ε σ α) := of_unchanged (fun _ => rfl) fun _ _ => rfl

theorem fail (e : ε) : ByCalls K (.fail e : Step ε σ α) :=
  of_unchanged (fun _ => rfl) fun _ _ => rfl

/-- Looking at the state is such an operation where the look does not see the ceiling. -/
theorem view {f : σ → Except ε α} (blind : ∀ s high, f (K.under high s) = f s) :
    ByCalls K (.view f) := of_unchanged (fun _ => rfl) blind

theorem modify {f : σ → σ} (same : ∀ s, K.store (f s) = K.store s)
    (blind : ∀ s high, f (K.under high s) = K.under high (f s)) : ByCalls K (.modify f) where
  calls := fun s => ⟨[], List.not_mem_nil, same s⟩
  ceiling := fun s high _ => .inr (congrArg (Prod.mk _) (blind s high))

theorem bind {f : α → Step ε σ β} (first : ByCalls K x) (next : ∀ a, ByCalls K (f a)) :
    ByCalls K (x >>= f) where
  calls := by
    intro s
    obtain ⟨cs, positive, same⟩ := first.calls s
    obtain ⟨result, t, ran⟩ : ∃ result t, x s = (result, t) := ⟨_, _, rfl⟩
    rw [ran] at same
    cases result with
    | error e => exact ⟨cs, positive, by rw [Step.bind_error ran]; exact same⟩
    | ok a =>
      obtain ⟨ds, positive', same'⟩ := (next a).calls t
      refine ⟨cs ++ ds, by simp [positive, positive'], ?_⟩
      rw [Step.bind_ok ran, same', same, callAll_append]
  ceiling := by
    intro s high above
    obtain ⟨cs, _, same⟩ := first.calls s
    obtain ⟨result, t, ran⟩ : ∃ result t, x s = (result, t) := ⟨_, _, rfl⟩
    have alike := first.ceiling s high above
    rw [ran] at same alike
    cases result with
    | error e =>
      rw [Step.bind_error ran]
      rcases alike with ⟨e', lacks, failed⟩ | alike
      · cases failed
        exact .inl ⟨e, lacks, rfl⟩
      · exact .inr (Step.bind_error alike)
    | ok a =>
      rw [Step.bind_ok ran]
      rcases alike with ⟨_, _, failed⟩ | alike
      · cases failed
      · rw [Step.bind_ok alike]
        refine (next a).ceiling t high ?_
        have same : K.store t = (callAll cs (K.store s)).2 := same
        rw [same, callAll_config]
        exact above

theorem returning {f : α → β} (inner : ByCalls K x) :
    ByCalls K (x >>= fun a => Pure.pure (f a)) := inner.bind fun _ => pure _

/-- On a part of the state that holds the store. -/
theorem within {J : Keeper ε τ} {x : Step ε τ α} {part : σ → τ} {put : τ → σ → σ}
    (inner : ByCalls J x) (lacks : ∀ e, J.lacks e → K.lacks e)
    (store_part : ∀ s, J.store (part s) = K.store s)
    (store_put : ∀ t s, K.store (put t s) = J.store t)
    (under_part : ∀ s high, part (K.under high s) = J.under high (part s))
    (under_put : ∀ t s high, put (J.under high t) (K.under high s) = K.under high (put t s)) :
    ByCalls K (.within part put x) where
  calls := by
    intro s
    obtain ⟨cs, positive, same⟩ := inner.calls (part s)
    refine ⟨cs, positive, ?_⟩
    rw [store_part] at same
    exact (store_put ..).trans same
  ceiling := by
    intro s high above
    rw [← store_part] at above
    rcases inner.ceiling (part s) high above with ⟨e, lacking, failed⟩ | alike
    · exact .inl ⟨e, lacks e lacking, failed⟩
    · exact .inr (by simp only [Step.within, under_part, alike, under_put])

theorem mapError {L : Keeper ε' σ} {f : ε → ε'} (inner : ByCalls K x)
    (lacks : ∀ e, K.lacks e → L.lacks (f e)) (store : L.store = K.store)
    (under : L.under = K.under) : ByCalls L (.mapError f x) where
  calls := by
    intro s
    rw [store]
    exact inner.calls s
  ceiling := by
    intro s high above
    rw [store] at above
    rw [under]
    rcases inner.ceiling s high above with ⟨e, lacking, failed⟩ | alike
    · exact .inl ⟨f e, lacks e lacking, congrArg (Except.mapError f) failed⟩
    · exact .inr (by simp only [Step.mapError, alike])

end ByCalls

/-! The parts of an arena. -/

def Arena.under (most : Option Nat) (a : Arena) : Arena := { a with store := a.store.under most }

namespace Keeper

def stores : Keeper MemoryError PageStore := ⟨MemoryError.lacksMemory, id, PageStore.under⟩

def arenas : Keeper MemoryError Arena := ⟨MemoryError.lacksMemory, Arena.store, Arena.under⟩

/-- An arena beside something else. -/
def beside (lacks : ε → Prop) : Keeper ε (τ × Arena) :=
  ⟨lacks, (·.2.store), fun most s => (s.1, s.2.under most)⟩

end Keeper

namespace ByCalls

open PageStore

theorem reserve {len : Nat} (positive : 0 < len) : ByCalls .stores (·.reserve len) where
  calls := by
    intro s
    refine ⟨[.reserve len], by simp; omega, ?_⟩
    obtain ⟨result, t, ran⟩ : ∃ result t, s.reserve len = (result, t) := ⟨_, _, rfl⟩
    cases result <;> simp only [callAll, call, ran, Keeper.stores, id]
  ceiling := by
    intro s high above
    exact reserve_under above len

/-- A write at an address that does not depend on the store. -/
theorem write (place : Except MemoryError Addr) (bytes : List UInt8) :
    ByCalls .stores (.update fun s => place.bind (s.write · bytes)) where
  calls := by
    intro s
    cases place with
    | error e => exact ⟨[], List.not_mem_nil, rfl⟩
    | ok addr =>
      refine ⟨[.write addr bytes], by simp, ?_⟩
      cases written : s.write addr bytes <;>
        simp only [Step.update, Except.bind, callAll, call, written, Keeper.stores, id]
  ceiling := by
    intro s high _
    refine .inr ?_
    cases place with
    | error e => rfl
    | ok addr =>
      have alike := write_under s high addr bytes
      cases written : s.write addr bytes <;> rw [written] at alike <;>
        simp only [Step.update, Except.bind, Keeper.stores, written, alike, Except.map]

end ByCalls
end ValueArena
