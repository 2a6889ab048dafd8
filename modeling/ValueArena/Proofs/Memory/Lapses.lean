import ValueArena.Proofs.Memory.Reserve

/-!
How often room may have run out. With the ceiling out of the way there is room for a request unless
the last page is too full for it and no new one is to be had; that ends with the next page, which
other requests may still open, and counts once.
-/
namespace ValueArena.PageStore

/-- There is no way back without another page. -/
theorem Room.Exhausted.leads {r r' : Room} {len : Nat} (exhausted : r.Exhausted len)
    (leads : r.Leads r') (same : r.pages = r'.pages) : r'.Exhausted len := by
  obtain ⟨denied, short⟩ := exhausted
  have less := leads.remaining same
  rw [Room.Exhausted, leads.config, ← same]
  exact ⟨denied, by omega⟩

/-- How many pages for `len` bytes were denied, the next one with them where it is asked for. -/
def Room.lapses (r : Room) (len : Nat) : Nat :=
  (List.range r.pages).countP (r.config.denies len) + if r.Exhausted len then 1 else 0

theorem countP_range_le {n m : Nat} (le : n ≤ m) (f : Nat → Bool) :
    (List.range n).countP f ≤ (List.range m).countP f :=
  (List.range_sublist.mpr le).countP_le

/-- Once there is another page, the denials before it are counted. -/
theorem Room.Leads.lapses_of_lt {r r' : Room} (leads : r.Leads r') (more : r.pages < r'.pages)
    (len : Nat) : r.lapses len ≤ (List.range r'.pages).countP (r'.config.denies len) := by
  have counted := countP_range_le more (r.config.denies len)
  rw [List.range_succ, List.countP_append, List.countP_singleton] at counted
  rw [leads.config]
  refine Nat.le_trans (Nat.add_le_add_left ?_ _) counted
  by_cases exhausted : r.Exhausted len
  · exact Nat.le_of_eq (by rw [if_pos exhausted, if_pos exhausted.1])
  · rw [if_neg exhausted]
    exact Nat.zero_le _

theorem Room.Leads.lapses_le {r r' : Room} (leads : r.Leads r') (len : Nat) :
    r.lapses len ≤ r'.lapses len := by
  rcases Nat.lt_or_eq_of_le leads.pages with more | same
  · exact Nat.le_trans (leads.lapses_of_lt more len) (Nat.le_add_right _ _)
  · unfold lapses
    rw [leads.config, same]
    refine Nat.add_le_add_left ?_ _
    by_cases exhausted : r.Exhausted len
    · exact Nat.le_of_eq (by rw [if_pos exhausted, if_pos (exhausted.leads leads same)])
    · rw [if_neg exhausted]
      exact Nat.zero_le _

/-- Running out of room counts once more. -/
theorem Room.Leads.lapses_lt {r r' : Room} (leads : r.Leads r') {len : Nat}
    (before : ¬ r.Exhausted len) (after : r'.Exhausted len) : r.lapses len < r'.lapses len := by
  have counted := countP_range_le leads.pages (r.config.denies len)
  rw [Room.lapses, Room.lapses, if_neg before, if_pos after, leads.config]
  omega

/-- Where the system refuses no page, room can run out only at the end of the page numbers. -/
theorem Room.lapses_of_provides {r : Room} {len : Nat}
    (provides : ∀ pages size, r.config.provides pages size = true) (few : r.pages ≤ 0xFFFFFFFE) :
    r.lapses len = if r.Exhausted len then 1 else 0 := by
  have none : (List.range r.pages).countP (r.config.denies len) = 0 := by
    rw [List.countP_eq_zero]
    intro pages member
    have := List.mem_range.mp member
    simp only [Config.denies, provides, Bool.not_true, Bool.or_false, decide_eq_true_eq]
    omega
  rw [lapses, none, Nat.zero_add]

end ValueArena.PageStore
