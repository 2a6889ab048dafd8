import ValueArena.Proofs.Memory.Reserve

/-!
Sequences of requests. As long as the page numbers suffice and the system provides the pages, a
check of a sequence against the ceiling passes exactly if the requests are served in order: it
follows the pages as they fill up and roll over.
-/
namespace ValueArena.PageStore

/-- The requests in order, up to the first that fails. -/
def reserveAll : List Nat → PageStore → Except MemoryError PageStore
  | [], s => .ok s
  | len :: lens, s =>
    match s.reserve len with
    | (.ok _, t) => reserveAll lens t
    | (.error e, _) => .error e

/-- The pages that these requests open, with `remaining` bytes free in the last one. -/
def pagesFor (standard : Nat) : Nat → List Nat → Nat
  | _, [] => 0
  | remaining, len :: lens =>
    if len ≤ remaining then pagesFor standard (remaining - len) lens
    else pagesFor standard (max len standard - len) lens + 1

/-- The system provides the pages that these requests open when there are `pages` already, with
`remaining` bytes free in the last one. -/
def providesAll (config : Config) : Nat → Nat → List Nat → Bool
  | _, _, [] => true
  | pages, remaining, len :: lens =>
    if len ≤ remaining then providesAll config pages (remaining - len) lens
    else
      let size := max len config.pageSize
      config.provides pages size && providesAll config (pages + 1) (size - len) lens

/-- The page numbers suffice for these requests, and the system provides the pages. -/
def HasPages (s : PageStore) (lens : List Nat) : Prop :=
  s.pageCount + pagesFor s.config.pageSize s.remaining lens ≤ 0xFFFFFFFE ∧
    providesAll s.config s.pageCount s.remaining lens = true

instance (s : PageStore) (lens : List Nat) : Decidable (s.HasPages lens) :=
  inferInstanceAs (Decidable (_ ∧ _))

namespace Room

def reserveAll : List Nat → Room → Option Room
  | [], r => some r
  | len :: lens, r => (r.reserve len).bind (reserveAll lens)

theorem reserveAll_append (r : Room) (lens more : List Nat) :
    r.reserveAll (lens ++ more) = (r.reserveAll lens).bind (reserveAll more) := by
  induction lens generalizing r with
  | nil => rfl
  | cons len lens ih =>
    simp only [List.cons_append, reserveAll]
    cases r.reserve len with
    | none => rfl
    | some r' => exact ih r'

/-- Whoever serves requests serves the first of them. -/
theorem reserveAll_take {r : Room} {lens : List Nat} (few : Nat)
    (served : (r.reserveAll lens).isSome = true) :
    (r.reserveAll (lens.take few)).isSome = true := by
  rw [← List.take_append_drop few lens, reserveAll_append] at served
  cases first : r.reserveAll (lens.take few) with
  | none =>
    rw [first] at served
    cases served
  | some r' => rfl

/-- Once a request is refused, no more of them are served. -/
theorem le_of_refused {r : Room} {lens : List Nat} {i j : Nat}
    (served : (r.reserveAll (lens.take i)).isSome = true)
    (refused : r.reserveAll (lens.take (j + 1)) = none) : i ≤ j := by
  by_cases above : j < i
  · have before := reserveAll_take (j + 1) served
    rw [List.take_take, Nat.min_eq_left above, refused] at before
    cases before
  · omega

@[simp] theorem reserveAll_single (r : Room) (len : Nat) : r.reserveAll [len] = r.reserve len := by
  simp [reserveAll]

def HasPages (r : Room) (lens : List Nat) : Prop :=
  r.pages + pagesFor r.config.pageSize r.remaining lens ≤ 0xFFFFFFFE ∧
    providesAll r.config r.pages r.remaining lens = true

variable {r r' : Room} {len : Nat} {lens : List Nat}

/-- A request is served by the last page or by a new one. -/
theorem forms_of_reserve (served : r.reserve len = some r') :
    0 < r.pages ∧ len ≤ r.remaining ∧ r' = r.take len ∨
      ¬ (0 < r.pages ∧ len ≤ r.remaining) ∧
        canReserve r.config (r.reserved + max len r.config.pageSize) = true ∧
        r' = ⟨r.config, r.pages + 1, max len r.config.pageSize - len,
          r.reserved + max len r.config.pageSize⟩ := by
  unfold reserve at served
  split at served
  case isTrue here =>
    cases served
    exact .inl ⟨here.1, here.2, rfl⟩
  case isFalse full =>
    obtain ⟨opened, opens, rfl⟩ := Option.map_eq_some_iff.mp served
    unfold open? at opens
    split at opens
    case isTrue allowed =>
      cases opens
      exact .inr ⟨full, allowed.1, rfl⟩
    case isFalse => cases opens

theorem config_of_reserve (served : r.reserve len = some r') : r'.config = r.config := by
  rcases forms_of_reserve served with ⟨_, _, rfl⟩ | ⟨_, _, rfl⟩ <;> rfl

theorem pages_pos_of_reserve (served : r.reserve len = some r') : 0 < r'.pages := by
  rcases forms_of_reserve served with ⟨some_page, _, rfl⟩ | ⟨_, _, rfl⟩
  · exact some_page
  · exact Nat.succ_pos _

/-- The first request asks for a byte, unless there is a page. -/
theorem ready_head (ready : 0 < r.pages ∨ (len :: lens).head? ≠ some 0) :
    0 < r.pages ∨ 0 < len := by
  simp only [List.head?_cons, ne_eq, Option.some.injEq] at ready
  omega

/-- A request that was served passes a check, as do those that the room left passes. -/
theorem wouldFit_cons (sound : r.pages = 0 → r.remaining = 0) (ready : 0 < r.pages ∨ 0 < len)
    (served : r.reserve len = some r') (fits : r'.wouldFit lens = true) :
    r.wouldFit (len :: lens) = true := by
  unfold wouldFit wouldFitFrom
  rcases forms_of_reserve served with ⟨_, here, rfl⟩ | ⟨full, allowed, rfl⟩
  · rw [if_pos here]
    exact fits
  · rw [if_neg (by omega)]
    exact Bool.and_eq_true_iff.mpr ⟨allowed, fits⟩

/-- Whatever a request opens was counted for it. -/
theorem HasPages.reserve (pages : r.HasPages (len :: lens)) (sound : r.pages = 0 → r.remaining = 0)
    (ready : 0 < r.pages ∨ 0 < len) (served : r.reserve len = some r') : r'.HasPages lens := by
  unfold HasPages pagesFor providesAll at pages
  unfold HasPages
  rcases forms_of_reserve served with ⟨_, here, rfl⟩ | ⟨full, _, rfl⟩
  · rw [if_pos here, if_pos here] at pages
    exact pages
  · rw [if_neg (by omega), if_neg (by omega)] at pages
    obtain ⟨numbers, provided⟩ := pages
    refine ⟨?_, (Bool.and_eq_true_iff.mp provided).2⟩
    dsimp only
    omega

/-- One of these requests, once those before it are served, needs a page that may not be opened,
however high the ceiling. -/
def RunsOut (r : Room) (lens : List Nat) : Prop :=
  ∃ before len after r', lens = before ++ len :: after ∧ r.reserveAll before = some r' ∧
    r'.Exhausted len

theorem RunsOut.cons (later : r'.RunsOut lens) (served : r.reserve len = some r') :
    r.RunsOut (len :: lens) := by
  obtain ⟨before, last, after, r'', rfl, reached, exhausted⟩ := later
  exact ⟨len :: before, last, after, r'', rfl, by rw [reserveAll, served]; exact reached, exhausted⟩

/-- Where there are pages for these requests the first of them has one. -/
theorem HasPages.not_exhausted (pages : r.HasPages (len :: lens)) : ¬ r.Exhausted len := by
  rintro ⟨denied, short⟩
  unfold HasPages pagesFor providesAll at pages
  rw [if_neg (by omega), if_neg (by omega)] at pages
  obtain ⟨numbers, provided⟩ := pages
  have provided := (Bool.and_eq_true_iff.mp provided).1
  simp only [Config.denies, provided, Bool.not_true, Bool.or_false, decide_eq_true_eq] at denied
  omega

theorem HasPages.not_runsOut (pages : r.HasPages lens) (sound : r.pages = 0 → r.remaining = 0)
    (ready : 0 < r.pages ∨ lens.head? ≠ some 0) : ¬ r.RunsOut lens := by
  intro out
  obtain ⟨before, len, after, r', rfl, reached, exhausted⟩ := out
  -- What the served requests open was counted, so a page is left for the one after them.
  induction before generalizing r with
  | nil =>
    cases reached
    exact HasPages.not_exhausted pages exhausted
  | cons first before ih =>
    obtain ⟨r₁, served, reached⟩ := Option.bind_eq_some_iff.mp reached
    have opened := pages_pos_of_reserve served
    have later := HasPages.reserve pages sound (ready_head ready) served
    exact ih (by omega) later (.inl opened) reached

/-- What was served passes a check. -/
theorem wouldFit_of_reserveAll (sound : r.pages = 0 → r.remaining = 0)
    (ready : 0 < r.pages ∨ lens.head? ≠ some 0) (served : (r.reserveAll lens).isSome = true) :
    r.wouldFit lens = true := by
  induction lens generalizing r with
  | nil => rfl
  | cons len lens ih =>
    rw [reserveAll] at served
    cases first : r.reserve len with
    | none =>
      rw [first] at served
      cases served
    | some r' =>
      rw [first] at served
      have opened := pages_pos_of_reserve first
      have later := ih (by omega) (.inl opened) served
      exact wouldFit_cons sound (ready_head ready) first later

/-- What passes a check is served, as long as pages may be opened. -/
theorem reserveAll_of_wouldFit (sound : r.pages = 0 → r.remaining = 0)
    (ready : 0 < r.pages ∨ lens.head? ≠ some 0)
    (small : ∀ len ∈ lens, max len r.config.pageSize ≤ 0xFFFFFFFF) (numbers : ¬ r.RunsOut lens)
    (fits : r.wouldFit lens = true) : (r.reserveAll lens).isSome = true := by
  induction lens generalizing r with
  | nil => rfl
  | cons len lens ih =>
    rw [reserveAll]
    cases first : r.reserve len with
    | none =>
      have exhausted :=
        exhausted_of_reserve sound (ready_head ready) (small len List.mem_cons_self) fits first
      exact absurd ⟨[], len, lens, r, rfl, rfl, exhausted⟩ numbers
    | some r' =>
      have opened := pages_pos_of_reserve first
      have config := config_of_reserve first
      have later := wouldFit_of_reserve sound (ready_head ready) fits first
      apply ih (by omega) (.inl opened)
      · rw [config]
        exact fun len member => small len (List.mem_cons_of_mem _ member)
      · exact fun out => numbers (out.cons first)
      · exact later

/-- The check is exact. -/
theorem wouldFit_iff_reserveAll (sound : r.pages = 0 → r.remaining = 0)
    (ready : 0 < r.pages ∨ lens.head? ≠ some 0)
    (small : ∀ len ∈ lens, max len r.config.pageSize ≤ 0xFFFFFFFF) (numbers : ¬ r.RunsOut lens) :
    r.wouldFit lens = true ↔ (r.reserveAll lens).isSome = true :=
  ⟨reserveAll_of_wouldFit sound ready small numbers, wouldFit_of_reserveAll sound ready⟩

end Room

/-- The requests succeed as the room says. -/
theorem reserveAll_room {s : PageStore} (bounded : s.Bounded) (lens : List Nat) :
    (s.reserveAll lens).toOption.map PageStore.room = s.room.reserveAll lens := by
  induction lens generalizing s with
  | nil => rfl
  | cons len lens ih =>
    rcases reserve_cases bounded len with ⟨n, m, refused, none⟩ | ⟨addr, t, served, room, gives⟩
    · simp only [reserveAll, refused, Room.reserveAll, none]
      rfl
    · simp only [reserveAll, served, Room.reserveAll, room, Option.bind_some]
      exact ih gives.bounded

end ValueArena.PageStore
