import ValueArena.Proofs.Memory.History

/-!
Two stores that differ only in their ceiling. What is served under the lower one is served alike
under the higher one, and nothing else asks for the ceiling.
-/
namespace ValueArena

def MemoryError.lacksMemory : MemoryError → Prop
  | .allocationFailed _ _ => True
  | _ => False

instance : DecidablePred MemoryError.lacksMemory
  | .allocationFailed .. => .isTrue trivial
  | .outOfBounds .. | .keyNotFound .. | .unsupportedCoercion .. | .unsupportedSourceType ..
  | .invalidAddress .. | .unknownTag .. | .kindMismatch .. | .invalidConfig .. => .isFalse id

/-- The second ceiling is no lower; none is the highest. -/
def Above (low high : Option Nat) : Prop :=
  ∀ most, high = some most → ∃ least, low = some least ∧ least ≤ most

def Config.under (most : Option Nat) (c : Config) : Config := { c with maxBytes := most }

theorem Config.allows_under {c : Config} {high : Option Nat} (above : Above c.maxBytes high)
    {reserved : Nat} (allowed : c.allows reserved = true) :
    (c.under high).allows reserved = true := by
  cases high with
  | none => rfl
  | some most =>
    obtain ⟨least, ceiling, le⟩ := above most rfl
    simp only [allows, ceiling, decide_eq_true_eq] at allowed
    simp only [allows, under, decide_eq_true_eq]
    omega

namespace PageStore

/-- The store with another ceiling. -/
def under (most : Option Nat) (s : PageStore) : PageStore :=
  { s with config := s.config.under most }

variable {s t : PageStore} {high : Option Nat}

theorem canReserve_under {c : Config} (above : Above c.maxBytes high) {reserved : Nat}
    (allowed : canReserve c reserved = true) : canReserve (c.under high) reserved = true := by
  obtain ⟨bounded, allowed⟩ := Bool.and_eq_true_iff.mp allowed
  exact Bool.and_eq_true_iff.mpr ⟨bounded, Config.allows_under above allowed⟩

theorem openPage_under (above : Above s.config.maxBytes high) {size : Nat}
    (opens : s.openPage size = .ok t) : (s.under high).openPage size = .ok (t.under high) := by
  obtain ⟨allowed, small, numbers, provided, rfl⟩ := openPage_eq_ok_iff.mp opens
  exact openPage_eq_ok_iff.mpr ⟨canReserve_under above allowed, small, numbers, provided, rfl⟩

theorem take_under (s : PageStore) (high : Option Nat) (len : Nat) :
    (s.under high).take len = ((s.take len).1, (s.take len).2.under high) := by
  simp only [take, under, active?]
  cases s.pages.back? with
  | none => rfl
  | some page =>
    dsimp only
    cases page.alloc? len with
    | none => rfl
    | some given =>
      dsimp only
      cases Addr.make? (UInt32.ofNat (s.pages.size - 1)) given.1 <;> rfl

/-- A request fails for want of memory, or is served alike under every higher ceiling. -/
theorem reserve_under (above : Above s.config.maxBytes high) (len : Nat) :
    (∃ e, e.lacksMemory ∧ (s.reserve len).1 = .error e) ∨
      (s.under high).reserve len = ((s.reserve len).1, (s.reserve len).2.under high) := by
  have fits : (s.under high).fits len = s.fits len := rfl
  have size : (s.under high).config.pageSize = s.config.pageSize := rfl
  simp only [reserve, fits, size]
  cases s.fits len with
  | true => exact .inr (take_under s high len)
  | false =>
    cases opens : s.openPage (max len s.config.pageSize) with
    | error e =>
      rw [openPage_error opens]
      exact .inl ⟨.allocationFailed .., trivial, rfl⟩
    | ok t =>
      rw [openPage_under above opens]
      exact .inr (take_under t high len)

/-- A check of a sequence of requests passes under every higher ceiling. -/
theorem wouldFitFrom_under {c : Config} (above : Above c.maxBytes high) {lens : List Nat}
    {remaining reserved : Nat} (fits : wouldFitFrom c remaining reserved lens = true) :
    wouldFitFrom (c.under high) remaining reserved lens = true := by
  induction lens generalizing remaining reserved with
  | nil => rfl
  | cons len lens ih =>
    unfold wouldFitFrom at fits ⊢
    split at fits
    case isTrue here =>
      rw [if_pos here]
      exact ih fits
    case isFalse full =>
      rw [if_neg full]
      obtain ⟨allowed, rest⟩ := Bool.and_eq_true_iff.mp fits
      exact Bool.and_eq_true_iff.mpr ⟨canReserve_under above allowed, ih rest⟩

theorem wouldFit_under (above : Above s.config.maxBytes high) {lens : List Nat}
    (fits : s.wouldFit lens = true) : (s.under high).wouldFit lens = true :=
  wouldFitFrom_under above fits

theorem write_under (s : PageStore) (high : Option Nat) (addr : Addr) (bytes : List UInt8) :
    (s.under high).write addr bytes = (s.write addr bytes).map (under high) := by
  have located : (s.under high).locate addr bytes.length = s.locate addr bytes.length := rfl
  unfold write
  rw [located]
  cases s.locate addr bytes.length <;> rfl

theorem take_config (s : PageStore) (len : Nat) : (s.take len).2.config = s.config := by
  unfold take
  dsimp only
  split
  · rfl
  · split
    · rfl
    · split <;> rfl

theorem reserve_config (s : PageStore) (len : Nat) : (s.reserve len).2.config = s.config := by
  unfold reserve
  split
  · exact take_config s len
  · cases opens : s.openPage (max len s.config.pageSize) with
    | error e => rfl
    | ok t =>
      obtain ⟨_, _, _, _, rfl⟩ := openPage_eq_ok_iff.mp opens
      exact take_config ..

theorem write_config {addr : Addr} {bytes : List UInt8} (written : s.write addr bytes = .ok t) :
    t.config = s.config := by
  obtain ⟨_, _, _, rfl⟩ := write_eq_ok_iff.mp written
  rfl

theorem call_config (s : PageStore) (c : Call) : (s.call c).2.config = s.config := by
  cases c with
  | reserve len =>
    obtain ⟨result, t, ran⟩ : ∃ result t, s.reserve len = (result, t) := ⟨_, _, rfl⟩
    have kept := reserve_config s len
    rw [ran] at kept
    cases result <;> simpa only [call, ran] using kept
  | write addr bytes =>
    cases written : s.write addr bytes with
    | ok t => simpa only [call, written] using write_config written
    | error e => simp only [call, written]

/-- No call changes how the store may grow. -/
theorem callAll_config (cs : List Call) (s : PageStore) :
    (callAll cs s).2.config = s.config := by
  induction cs generalizing s with
  | nil => rfl
  | cons c cs ih => exact (ih _).trans (call_config s c)

theorem callAll_append (cs ds : List Call) (s : PageStore) :
    callAll (cs ++ ds) s =
      ((callAll cs s).1 ++ (callAll ds (callAll cs s).2).1, (callAll ds (callAll cs s).2).2) := by
  induction cs generalizing s with
  | nil => rfl
  | cons c cs ih => simp only [List.cons_append, callAll, ih, List.append_assoc]

end PageStore
end ValueArena
