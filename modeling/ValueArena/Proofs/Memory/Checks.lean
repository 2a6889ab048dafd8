import ValueArena.Proofs.Memory.Ceiling
import ValueArena.Proofs.Memory.Requests

/-!
The check of a sequence of requests, from every store that calls lead to and for requests of no
bytes too. It never says that requests which are served would not fit. It says the converse only of
an empty store whose first request is for no bytes: that opens a page, and the check does not count
it.
-/
namespace ValueArena.PageStore

/-- The bytes free in the last page and the bytes reserved once `len` bytes have a page, unless a
new one for them is too many. -/
def rollOver (config : Config) (remaining reserved len : Nat) : Option (Nat × Nat) :=
  if remaining < len then
    let size := max len config.pageSize
    if canReserve config (reserved + size) then some (size, reserved + size) else none
  else some (remaining, reserved)

/-- The check in two steps for each request: a page for it, then the subtraction. There is no result
if one would go below zero. -/
def checkFrom (config : Config) : Nat → Nat → List Nat → Option Bool
  | _, _, [] => some true
  | remaining, reserved, len :: lens =>
    match rollOver config remaining reserved len with
    | none => some false
    | some (remaining, reserved) =>
      if len ≤ remaining then checkFrom config (remaining - len) reserved lens else none

/-- One of these requests, once those before it are served, needs a page that may not be opened,
however high the ceiling. -/
def RunsOut (s : PageStore) (lens : List Nat) : Prop :=
  ∃ before len after t, lens = before ++ len :: after ∧ s.reserveAll before = .ok t ∧
    t.room.Exhausted len

/-- What the check of requests says about serving them in order. -/
structure Checks (s : PageStore) (lens : List Nat) : Prop where
  subtracts : checkFrom s.config s.remaining s.reserved lens = some (s.wouldFit lens)
  served : (s.reserveAll lens).isOk = true → s.wouldFit lens = true
  exact : s.pageCount ≠ 0 ∨ lens.head? ≠ some 0 → ¬ s.RunsOut lens →
    (s.wouldFit lens = true ↔ (s.reserveAll lens).isOk = true)
  blank : s.pageCount = 0 → ∀ rest, lens = 0 :: rest → ¬ s.RunsOut lens →
    ((s.reserveAll lens).isOk = true ↔
      ∃ t, s.openPage s.config.pageSize = .ok t ∧ t.wouldFit rest = true)

variable {config : Config} {s : PageStore} {lens : List Nat}

theorem checkFrom_eq (config : Config) (remaining reserved : Nat) (lens : List Nat) :
    checkFrom config remaining reserved lens =
      some (wouldFitFrom config remaining reserved lens) := by
  induction lens generalizing remaining reserved with
  | nil => rfl
  | cons len lens ih =>
    unfold checkFrom rollOver wouldFitFrom
    by_cases fits : len ≤ remaining
    · have here : ¬ remaining < len := by omega
      simp only [here, fits, ↓reduceIte, ih]
    · have beyond : remaining < len := by omega
      have large : len ≤ max len config.pageSize := Nat.le_max_left ..
      cases allowed : canReserve config (reserved + max len config.pageSize)
      · simp [beyond, fits, allowed]
      · simp [beyond, fits, allowed, large, ih]

theorem canReserve_of_le {few more : Nat} (le : few ≤ more)
    (allowed : canReserve config more = true) : canReserve config few = true := by
  obtain ⟨bounded, below⟩ := Bool.and_eq_true_iff.mp allowed
  rw [decide_eq_true_eq] at bounded
  refine Bool.and_eq_true_iff.mpr ⟨decide_eq_true (by omega), ?_⟩
  unfold Config.allows at below ⊢
  split at below
  · rfl
  · rw [decide_eq_true_eq] at below ⊢
    omega

/-- Fewer bytes reserved leave no less room. -/
theorem wouldFitFrom_of_le {remaining few more : Nat} (le : few ≤ more)
    (fits : wouldFitFrom config remaining more lens = true) :
    wouldFitFrom config remaining few lens = true := by
  induction lens generalizing remaining few more with
  | nil => rfl
  | cons len lens ih =>
    unfold wouldFitFrom at fits ⊢
    split at fits
    case isTrue here =>
      rw [if_pos here]
      exact ih le fits
    case isFalse beyond =>
      rw [if_neg beyond]
      obtain ⟨allowed, later⟩ := Bool.and_eq_true_iff.mp fits
      exact Bool.and_eq_true_iff.mpr ⟨canReserve_of_le (by omega) allowed, ih (by omega) later⟩

/-- What fits a standard page just opened fits where none is open yet. -/
theorem wouldFitFrom_of_opened {reserved : Nat}
    (allowed : canReserve config (reserved + config.pageSize) = true)
    (fits : wouldFitFrom config config.pageSize (reserved + config.pageSize) lens = true) :
    wouldFitFrom config 0 reserved lens = true := by
  -- Requests for no bytes leave both sides as they are. The first for some byte counts the standard
  -- page, or instead of it a larger one, which reserves less than the two together.
  induction lens with
  | nil => rfl
  | cons len lens ih =>
    by_cases zero : len = 0
    · subst zero
      exact ih fits
    · have beyond : ¬ len ≤ 0 := by omega
      unfold wouldFitFrom at fits ⊢
      rw [if_neg beyond]
      split at fits
      case isTrue here =>
        rw [Nat.max_eq_right here]
        exact Bool.and_eq_true_iff.mpr ⟨allowed, fits⟩
      case isFalse large =>
        obtain ⟨allowed', later⟩ := Bool.and_eq_true_iff.mp fits
        exact Bool.and_eq_true_iff.mpr
          ⟨canReserve_of_le (by omega) allowed', wouldFitFrom_of_le (by omega) later⟩

theorem isOk_reserveAll (bounded : s.Bounded) (lens : List Nat) :
    (s.reserveAll lens).isOk = (s.room.reserveAll lens).isSome := by
  rw [← reserveAll_room bounded]
  cases s.reserveAll lens <;> rfl

theorem runsOut_iff_room (bounded : s.Bounded) : s.RunsOut lens ↔ s.room.RunsOut lens := by
  constructor
  · intro out
    obtain ⟨before, len, after, t, cut, reached, exhausted⟩ := out
    have same := reserveAll_room bounded before
    rw [reached] at same
    exact ⟨before, len, after, t.room, cut, same.symm, exhausted⟩
  · intro out
    obtain ⟨before, len, after, r, cut, reached, exhausted⟩ := out
    rw [← reserveAll_room bounded] at reached
    obtain ⟨t, served, rfl⟩ := Option.map_eq_some_iff.mp reached
    cases all : s.reserveAll before with
    | error e =>
      rw [all] at served
      cases served
    | ok t =>
      rw [all] at served
      cases served
      exact ⟨before, len, after, _, cut, all, exhausted⟩

/-- Pages counted for all requests do not run out. -/
theorem not_runsOut_of_hasPages (bounded : s.Bounded) (pages : s.HasPages lens)
    (ready : 0 < s.pageCount ∨ lens.head? ≠ some 0) : ¬ s.RunsOut lens := by
  rw [runsOut_iff_room bounded]
  exact Room.HasPages.not_runsOut pages s.room_remaining ready

/-- The room of a new page. -/
theorem room_opened {t : PageStore} {size : Nat} (opened : s.openPage size = .ok t) :
    t.room = ⟨s.config, s.pageCount + 1, size, s.reserved + size⟩ := by
  obtain ⟨_, _, _, _, rfl⟩ := openPage_eq_ok_iff.mp opened
  simp [room, PageStore.remaining, active?, Page.remaining, pageCount]

/-- A request for no bytes opens a standard page in an empty store. -/
theorem reserve_blank (blank : s.pageCount = 0) :
    s.room.reserve 0 = (s.openPage s.config.pageSize).toOption.map PageStore.room := by
  have no_page : ¬ (0 < s.room.pages ∧ 0 ≤ s.room.remaining) := by
    have : s.room.pages = 0 := blank
    omega
  have standard : max 0 s.room.config.pageSize = s.config.pageSize := Nat.zero_max ..
  rw [Room.reserve, if_neg no_page, standard, openPage_room, Option.map_map]
  rfl

/-- What is served from an empty store is served once a standard page is open. -/
theorem reserveAll_blank (bounded : s.Bounded) (blank : s.pageCount = 0) (rest : List Nat) :
    (s.reserveAll (0 :: rest)).isOk = true ↔
      ∃ t, s.openPage s.config.pageSize = .ok t ∧ (t.room.reserveAll rest).isSome = true := by
  rw [isOk_reserveAll bounded, Room.reserveAll, reserve_blank blank]
  cases s.openPage s.config.pageSize with
  | error e => simp [Except.toOption]
  | ok t => simp [Except.toOption]

/-- The page that the empty store lacks decides with the check of what comes after. -/
theorem reserveAll_blank_iff (bounded : s.Bounded) (blank : s.pageCount = 0) {rest : List Nat}
    (small : ∀ len ∈ rest, max len s.config.pageSize ≤ 0xFFFFFFFF)
    (numbers : ¬ s.RunsOut (0 :: rest)) :
    (s.reserveAll (0 :: rest)).isOk = true ↔
      ∃ t, s.openPage s.config.pageSize = .ok t ∧ t.wouldFit rest = true := by
  rw [reserveAll_blank bounded blank]
  apply exists_congr
  intro t
  apply and_congr_right
  intro opened
  have new := room_opened opened
  have first : s.room.reserve 0 = some t.room := by
    rw [reserve_blank blank, opened]
    rfl
  have later : ¬ t.room.RunsOut rest := by
    intro out
    exact numbers ((runsOut_iff_room bounded).mpr (out.cons first))
  have ready : 0 < t.room.pages := by
    rw [new]
    exact Nat.succ_pos _
  exact (Room.wouldFit_iff_reserveAll t.room_remaining (.inl ready) (by rw [new]; exact small)
    later).symm

/-- Whatever is served from an empty store passes the check. -/
theorem wouldFit_of_blank (bounded : s.Bounded) (blank : s.pageCount = 0) {rest : List Nat}
    (served : (s.reserveAll (0 :: rest)).isOk = true) : s.wouldFit (0 :: rest) = true := by
  obtain ⟨t, opened, later⟩ := (reserveAll_blank bounded blank rest).mp served
  have new := room_opened opened
  have allowed := (openPage_eq_ok_iff.mp opened).1
  have ready : 0 < t.room.pages := by
    rw [new]
    exact Nat.succ_pos _
  have fits := Room.wouldFit_of_reserveAll t.room_remaining (.inl ready) later
  rw [Room.wouldFit, new] at fits
  have nothing : s.remaining = 0 := s.room_remaining blank
  unfold wouldFit wouldFitFrom
  rw [nothing, if_pos (Nat.le_refl 0)]
  exact wouldFitFrom_of_opened allowed fits

theorem checks_of_bounded (bounded : s.Bounded)
    (small : ∀ len ∈ lens, max len s.config.pageSize ≤ 0xFFFFFFFF) : s.Checks lens := by
  have ready_or : s.pageCount ≠ 0 ∨ lens.head? ≠ some 0 → 0 < s.room.pages ∨ lens.head? ≠ some 0 :=
    Or.imp_left Nat.pos_of_ne_zero
  constructor
  · exact checkFrom_eq ..
  · intro served
    by_cases ready : s.pageCount ≠ 0 ∨ lens.head? ≠ some 0
    · rw [isOk_reserveAll bounded] at served
      exact Room.wouldFit_of_reserveAll s.room_remaining (ready_or ready) served
    · rw [not_or, Decidable.not_not, Decidable.not_not] at ready
      obtain ⟨blank, head⟩ := ready
      obtain ⟨rest, rfl⟩ := List.head?_eq_some_iff.mp head
      exact wouldFit_of_blank bounded blank served
  · intro ready numbers
    rw [runsOut_iff_room bounded] at numbers
    rw [isOk_reserveAll bounded]
    exact Room.wouldFit_iff_reserveAll s.room_remaining (ready_or ready) small numbers
  · rintro blank rest rfl numbers
    exact reserveAll_blank_iff bounded blank (fun len member => small len (.tail _ member)) numbers

/-- In every store, whatever calls lead to it. -/
theorem checks_callAll (config : Config) (standard : config.pageSize ≤ 0xFFFFFFFF)
    (calls : List Call) (lens : List Nat) (small : ∀ len ∈ lens, len ≤ 0xFFFFFFFF) :
    (callAll calls (.empty config)).2.Checks lens := by
  obtain ⟨tracks, _⟩ := (empty_tracks config).callAll calls
  apply checks_of_bounded tracks.bounded
  intro len member
  have := small len member
  rw [callAll_config]
  exact Nat.max_le.mpr ⟨this, standard⟩

/-- A page partly filled. -/
def partSample : PageStore := (callAll [.reserve 100] (.empty ⟨128, some 256⟩)).2

/-- What fills the page and the next one is served. -/
theorem checks_callAll_partSample : (∀ len ∈ [28, 128], len ≤ 0xFFFFFFFF) ∧
    ¬ partSample.RunsOut [28, 128] ∧ partSample.wouldFit [28, 128] = true ∧
    (partSample.reserveAll [28, 128]).isOk = true := by
  have small : ∀ len ∈ [28, 128], len ≤ 0xFFFFFFFF := by decide
  have checks : partSample.Checks [28, 128] :=
    checks_callAll ⟨128, some 256⟩ (by decide) [.reserve 100] [28, 128] small
  obtain ⟨tracks, _⟩ := (empty_tracks ⟨128, some 256⟩).callAll [.reserve 100]
  have numbers : ¬ partSample.RunsOut [28, 128] :=
    not_runsOut_of_hasPages tracks.bounded (by decide) (.inr (by decide))
  have fits : partSample.wouldFit [28, 128] = true := by decide
  exact ⟨small, numbers, fits, (checks.exact (.inr (by decide)) numbers).mp fits⟩

/-- A request for no bytes passes the check of an empty store that cannot open a page for it. -/
theorem blank_wouldFit : (empty ⟨128, some 64⟩).wouldFit [0] = true ∧
    (reserveAll [0] (empty ⟨128, some 64⟩)).isOk = false ∧
    ¬ (empty ⟨128, some 64⟩).RunsOut [0] := by
  refine ⟨by decide, by decide, ?_⟩
  intro out
  obtain ⟨before, len, after, t, cut, _, _, short⟩ := out
  have member : len ∈ [0] := by simp [cut]
  rw [List.mem_singleton] at member
  omega

end ValueArena.PageStore
