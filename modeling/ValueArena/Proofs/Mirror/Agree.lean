import ValueArena.Proofs.Mirror.Basic

/-!
Two operations side by side, each on its own state. They agree when they fail alike or succeed with
related results and leave corresponding states, under a mirror that may have grown on the way. Where
one of them lacks memory nothing is asked of the other.
-/
namespace ValueArena

/-- How the states of two runs correspond, and which failures end the comparison. -/
structure Pairing (ε σ : Type) where
  lacks : ε → Prop
  states : Mirror → σ → σ → Prop

namespace Mirror

/-- The same failure, or related results. -/
inductive Outcome (R : α → β → Prop) : Except ε α → Except ε β → Prop
  | ok {u : α} {v : β} (related : R u v) : Outcome R (.ok u) (.ok v)
  | error (e : ε) : Outcome R (.error e) (.error e)

def Agree (K : Pairing ε σ) (M : Mirror) (x : Step ε σ α) (y : Step ε σ β)
    (R : Mirror → α → β → Prop) (s t : σ) : Prop :=
  (∃ e, K.lacks e ∧ (x s).1 = .error e) ∨ (∃ e, K.lacks e ∧ (y t).1 = .error e) ∨
    ∃ N, M.Leads N ∧ K.states N (x s).2 (y t).2 ∧ Outcome (R N) (x s).1 (y t).1

theorem Outcome.imp {R S : α → β → Prop} {u : Except ε α} {v : Except ε β} (outcome : Outcome R u v)
    (weaker : ∀ u v, R u v → S u v) : Outcome S u v := by
  cases outcome with
  | ok related => exact .ok (weaker _ _ related)
  | error e => exact .error e

theorem outcome_eq (u : Except ε α) : Outcome (· = ·) u u := by
  cases u with
  | ok u => exact .ok rfl
  | error e => exact .error e

theorem outcome_of_eq {u v : Except ε α} (same : u = v) : Outcome (· = ·) u v := same ▸ outcome_eq u

theorem Outcome.bind {R : α → β → Prop} {S : γ → δ → Prop} {u : Except ε α} {v : Except ε β}
    {f : α → Except ε γ} {g : β → Except ε δ} (outcome : Outcome R u v)
    (next : ∀ u v, R u v → Outcome S (f u) (g v)) : Outcome S (u >>= f) (v >>= g) := by
  cases outcome with
  | ok related => exact next _ _ related
  | error e => exact .error e

theorem Outcome.map {R : α → β → Prop} {S : γ → δ → Prop} {u : Except ε α} {v : Except ε β}
    {f : α → γ} {g : β → δ} (outcome : Outcome R u v) (next : ∀ u v, R u v → S (f u) (g v)) :
    Outcome S (u.map f) (v.map g) := by
  cases outcome with
  | ok related => exact .ok (next _ _ related)
  | error e => exact .error e

theorem Outcome.mapError {R : α → β → Prop} {u : Except ε α} {v : Except ε β}
    (outcome : Outcome R u v) (fault : ε → ε') :
    Outcome R (u.mapError fault) (v.mapError fault) := by
  cases outcome with
  | ok related => exact .ok related
  | error e => exact .error (fault e)

variable {K : Pairing ε σ} {M N : Mirror} {s t s' t' : σ} {x : Step ε σ α} {y : Step ε σ β}
  {f : α → Step ε σ γ} {g : β → Step ε σ δ} {R : Mirror → α → β → Prop}
  {S : Mirror → γ → δ → Prop}

theorem agree_lacks_left {e : ε} (ran : x s = (.error e, s')) (lacks : K.lacks e) :
    Agree K M x y R s t := .inl ⟨e, lacks, by rw [ran]⟩

theorem agree_lacks_right {e : ε} (ran : y t = (.error e, t')) (lacks : K.lacks e) :
    Agree K M x y R s t := .inr (.inl ⟨e, lacks, by rw [ran]⟩)

theorem agree_of_apply {u : Except ε α} {v : Except ε β} (left : x s = (u, s'))
    (right : y t = (v, t')) (leads : M.Leads N) (states : K.states N s' t')
    (outcome : Outcome (R N) u v) : Agree K M x y R s t := by
  refine .inr (.inr ⟨N, leads, ?_, ?_⟩)
  · rw [left, right]
    exact states
  · rw [left, right]
    exact outcome

theorem agree_view (states : K.states M s t) {f : σ → Except ε α} {g : σ → Except ε β}
    (outcome : Outcome (R M) (f s) (g t)) : Agree K M (.view f) (.view g) R s t :=
  agree_of_apply rfl rfl (.refl M) states outcome

theorem agree_pure (states : K.states M s t) {u : α} {v : β} (related : R M u v) :
    Agree K M (pure u) (pure v) R s t :=
  agree_of_apply rfl rfl (.refl M) states (.ok related)

theorem agree_fail (states : K.states M s t) (e : ε) :
    Agree K M (.fail e : Step ε σ α) (.fail e : Step ε σ β) R s t :=
  agree_of_apply rfl rfl (.refl M) states (.error e)

theorem agree_modify {p q : σ → σ} (states : K.states M (p s) (q t)) :
    Agree K M (.modify p) (.modify q) (fun _ _ _ => True) s t :=
  agree_of_apply rfl rfl (.refl M) states (.ok trivial)

theorem Agree.imp {S : Mirror → α → β → Prop} (agree : Agree K M x y R s t)
    (weaker : ∀ N u v, M.Leads N → K.states N (x s).2 (y t).2 → R N u v → S N u v) :
    Agree K M x y S s t := by
  rcases agree with left | right | ⟨N, leads, states, outcome⟩
  · exact .inl left
  · exact .inr (.inl right)
  · exact .inr (.inr ⟨N, leads, states, outcome.imp fun u v => weaker N u v leads states⟩)

/-- What agrees from a state that was led to agrees from where that started. -/
theorem Agree.after (leads : M.Leads N) (agree : Agree K N x y R s t) : Agree K M x y R s t := by
  rcases agree with left | right | ⟨P, leads', states, outcome⟩
  · exact .inl left
  · exact .inr (.inl right)
  · exact .inr (.inr ⟨P, leads.trans leads', states, outcome⟩)

theorem Agree.bind (first : Agree K M x y R s t)
    (next : ∀ N s' t' u v, M.Leads N → K.states N s' t' → R N u v →
      Agree K N (f u) (g v) S s' t') : Agree K M (x >>= f) (y >>= g) S s t := by
  obtain ⟨u, s', left⟩ : ∃ u s', x s = (u, s') := ⟨_, _, rfl⟩
  obtain ⟨v, t', right⟩ : ∃ v t', y t = (v, t') := ⟨_, _, rfl⟩
  rw [Agree, left, right] at first
  rcases first with ⟨e, lacks, rfl⟩ | ⟨e, lacks, rfl⟩ | ⟨N, leads, states, outcome⟩
  · exact agree_lacks_left (Step.bind_error left) lacks
  · exact agree_lacks_right (Step.bind_error right) lacks
  · cases outcome with
    | error e =>
      exact agree_of_apply (Step.bind_error left) (Step.bind_error right) leads states (.error e)
    | ok related =>
      have agree := (next N s' t' _ _ leads states related).after leads
      rw [Agree, Step.bind_ok left, Step.bind_ok right]
      exact agree

theorem Agree.map {p : α → γ} {q : β → δ} (first : Agree K M x y R s t)
    (related : ∀ N u v, R N u v → S N (p u) (q v)) :
    Agree K M (do return p (← x)) (do return q (← y)) S s t :=
  first.bind fun N _ _ u v _ states known => agree_pure states (related N u v known)

/-- Looking something up that is related changes no state. -/
theorem agree_view_bind (states : K.states M s t) {p : σ → Except ε α} {q : σ → Except ε β}
    {R : α → β → Prop} (outcome : Outcome R (p s) (q t))
    (next : ∀ u v, R u v → Agree K M (f u) (g v) S s t) :
    Agree K M (.view p >>= f) (.view q >>= g) S s t := by
  have looked_left := Step.view_bind p f s
  have looked_right := Step.view_bind q g t
  generalize p s = u at outcome looked_left
  generalize q t = v at outcome looked_right
  cases outcome with
  | error e => exact agree_of_apply looked_left looked_right (.refl M) states (.error e)
  | ok related =>
    rw [Agree, looked_left, looked_right]
    exact next _ _ related

/-- Operations that agree on a part of the state agree on the whole. -/
theorem Agree.lift {L : Pairing ε τ} (agree : Agree K M x y R s t) {x' : Step ε τ α}
    {y' : Step ε τ β} {u v : τ} (lacks : ∀ e, K.lacks e → L.lacks e)
    (left : (x' u).1 = (x s).1) (right : (y' v).1 = (y t).1)
    (states : ∀ N, M.Leads N → K.states N (x s).2 (y t).2 → L.states N (x' u).2 (y' v).2) :
    Agree L M x' y' R u v := by
  rcases agree with ⟨e, lacking, failed⟩ | ⟨e, lacking, failed⟩ | ⟨N, leads, here, outcome⟩
  · exact .inl ⟨e, lacks e lacking, left.trans failed⟩
  · exact .inr (.inl ⟨e, lacks e lacking, right.trans failed⟩)
  · refine .inr (.inr ⟨N, leads, states N leads here, ?_⟩)
    rw [left, right]
    exact outcome

/-- Failures may be reported under another name. -/
theorem Agree.mapError (agree : Agree K M x y R s t) (fault : ε → ε') {lacks : ε' → Prop}
    (still : ∀ e, K.lacks e → lacks (fault e)) :
    Agree ⟨lacks, K.states⟩ M (x.mapError fault) (y.mapError fault) R s t := by
  rcases agree with ⟨e, lacking, failed⟩ | ⟨e, lacking, failed⟩ | ⟨N, leads, states, outcome⟩
  · exact .inl ⟨fault e, still e lacking, congrArg (Except.mapError fault) failed⟩
  · exact .inr (.inl ⟨fault e, still e lacking, congrArg (Except.mapError fault) failed⟩)
  · exact .inr (.inr ⟨N, leads, states, outcome.mapError fault⟩)

end Mirror
end ValueArena
