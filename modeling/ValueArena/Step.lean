/-!
Operations on a state that keep what they did when they fail: the state is returned beside the
result, not inside it.
-/
namespace ValueArena

def Step (ε σ α : Type) : Type := σ → Except ε α × σ

namespace Step

@[always_inline] instance : Monad (Step ε σ) where
  pure a := fun s => (.ok a, s)
  bind x f := fun s =>
    match x s with
    | (.ok a, s) => f a s
    | (.error e, s) => (.error e, s)

@[inline] def fail (e : ε) : Step ε σ α := fun s => (.error e, s)

/-- Looks at the state. -/
@[inline] def view (f : σ → Except ε α) : Step ε σ α := fun s => (f s, s)

@[inline] def modify (f : σ → σ) : Step ε σ Unit := fun s => (.ok (), f s)

/-- Replaces the state, or fails and keeps it. -/
@[inline] def update (f : σ → Except ε σ) : Step ε σ Unit := fun s =>
  match f s with
  | .ok s => (.ok (), s)
  | .error e => (.error e, s)

/-- Runs on a part of the state. -/
@[inline] def within (part : σ → τ) (put : τ → σ → σ) (x : Step ε τ α) : Step ε σ α :=
  fun s =>
    let (result, t) := x (part s)
    (result, put t s)

@[inline] def onSecond (x : Step ε τ α) : Step ε (σ × τ) α :=
  within Prod.snd (fun t p => (p.1, t)) x

/-- Gives the running operation a second state to start from and returns where it ended. -/
@[inline] def starting (t : τ) (x : Step ε (τ × σ) α) : Step ε σ (α × τ) := fun s =>
  match x (t, s) with
  | (.ok a, t, s) => (.ok (a, t), s)
  | (.error e, _, s) => (.error e, s)

@[inline] def mapError (f : ε → ε') (x : Step ε σ α) : Step ε' σ α := fun s =>
  let (result, s) := x s
  (result.mapError f, s)

@[simp] theorem pure_apply (a : α) (s : σ) : (pure a : Step ε σ α) s = (.ok a, s) := rfl

@[simp] theorem fail_apply (e : ε) (s : σ) : (fail e : Step ε σ α) s = (.error e, s) := rfl

@[simp] theorem modify_apply (f : σ → σ) (s : σ) :
    (modify f : Step ε σ Unit) s = (.ok (), f s) := rfl

@[simp] theorem view_apply (f : σ → Except ε α) (s : σ) : view f s = (f s, s) := rfl

theorem bind_ok {x : Step ε σ α} {f : α → Step ε σ β} {s t : σ} {a : α}
    (h : x s = (.ok a, t)) : (x >>= f) s = f a t := by
  simp only [bind, h]

theorem bind_error {x : Step ε σ α} {f : α → Step ε σ β} {s t : σ} {e : ε}
    (h : x s = (.error e, t)) : (x >>= f) s = (.error e, t) := by
  simp only [bind, h]

theorem view_bind (f : σ → Except ε α) (g : α → Step ε σ β) (s : σ) :
    (view f >>= g) s = match f s with
      | .ok a => g a s
      | .error e => (.error e, s) := by
  cases looked : f s <;> simp only [bind, view, looked]

theorem bind_pure_apply {x : Step ε σ α} {g : α → β} {s t : σ} {result : Except ε α}
    (h : x s = (result, t)) : (x >>= fun a => pure (g a)) s = (result.map g, t) := by
  cases result with
  | ok a => exact bind_ok h
  | error e => exact bind_error h

theorem modify_bind (f : σ → σ) (g : Unit → Step ε σ β) (s : σ) :
    (modify f >>= g) s = g () (f s) := rfl

theorem onSecond_apply {x : Step ε τ α} {s : σ} {t u : τ} {result : Except ε α}
    (h : x t = (result, u)) : onSecond x (s, t) = (result, (s, u)) := by
  simp only [onSecond, within, h]

theorem starting_eq_ok_iff {x : Step ε (τ × σ) α} {t u : τ} {s s' : σ} {a : α} :
    starting t x s = (.ok (a, u), s') ↔ x (t, s) = (.ok a, (u, s')) := by
  obtain ⟨result, v, r, ran⟩ : ∃ result v r, x (t, s) = (result, (v, r)) := ⟨_, _, _, rfl⟩
  cases result <;> simp [starting, ran, and_assoc]

theorem bind_eq_ok_iff {x : Step ε σ α} {f : α → Step ε σ β} {s u : σ} {b : β} :
    (x >>= f) s = (.ok b, u) ↔ ∃ a t, x s = (.ok a, t) ∧ f a t = (.ok b, u) := by
  obtain ⟨result, t, ran⟩ : ∃ result t, x s = (result, t) := ⟨_, _, rfl⟩
  cases result with
  | ok a => simp [bind_ok ran, ran, and_assoc]
  | error e => simp [bind_error ran, ran]

theorem view_bind_eq_ok_iff {f : σ → Except ε α} {g : α → Step ε σ β} {s t : σ} {b : β} :
    (view f >>= g) s = (.ok b, t) ↔ ∃ a, f s = .ok a ∧ g a s = (.ok b, t) := by
  cases looked : f s <;> simp [view_bind, looked]

/-- A failure comes from the first operation or from what follows its success. -/
theorem bind_eq_error_iff {x : Step ε σ α} {f : α → Step ε σ β} {s u : σ} {e : ε} :
    (x >>= f) s = (.error e, u) ↔
      x s = (.error e, u) ∨ ∃ a t, x s = (.ok a, t) ∧ f a t = (.error e, u) := by
  obtain ⟨result, t, ran⟩ : ∃ result t, x s = (result, t) := ⟨_, _, rfl⟩
  cases result with
  | ok a => simp [bind_ok ran, ran, and_assoc]
  | error e => simp [bind_error ran, ran]

theorem id_map_apply (x : Step ε σ α) : id <$> x = x := by
  funext s
  obtain ⟨result, t, ran⟩ : ∃ result t, x s = (result, t) := ⟨_, _, rfl⟩
  cases result with
  | ok a =>
    simp only [Functor.map, ran]
    rfl
  | error e => simp only [Functor.map, ran]

theorem bind_bind (x : Step ε σ α) (f : α → Step ε σ β) (g : β → Step ε σ γ) :
    x >>= f >>= g = x >>= fun a => f a >>= g := by
  funext s
  obtain ⟨result, t, ran⟩ : ∃ result t, x s = (result, t) := ⟨_, _, rfl⟩
  cases result <;> simp [bind, ran]

instance : LawfulMonad (Step ε σ) :=
  LawfulMonad.mk' _ id_map_apply (fun _ _ => rfl) bind_bind

end Step
end ValueArena
