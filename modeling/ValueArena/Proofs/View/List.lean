import ValueArena.Proofs.Picture.Writes
import ValueArena.Proofs.View.Refresh

/-!
Views of lists. A view may be out of date, but never says that it is up to date when it is not, as
long as the count of writes has not wrapped around. Reads bring it up to date first; an append
leaves it up to date, by a walk or by the entry that it adds.
-/
namespace ValueArena

/-- A view of a list of the picture. What it remembers are handles of the arena, and what it dates
by the present is right. -/
structure Picture.Sees (p : Picture) (v : ListView) : Prop where
  header : p.heap.IsList v.header.addr
  named : p.heap.Issued v.handle
  items : ∀ h ∈ v.items, p.heap.Issued h
  values : ∀ h ∈ v.values, p.heap.Issued h
  current : p.writes < 0x10000000000000000 → ∀ g, v.builtAt = some g →
    g.toNat ≤ p.writes ∧ (g.toNat = p.writes → v = p.view v.header)

namespace Picture

variable {a : Arena} {p q : Picture} {v : ListView} {changes : List Change}

theorem sees_view {header : Descriptor} (null : p.heap .null = none)
    (list : p.heap.IsList header.addr) (named : p.heap.Issued (.stored header)) :
    p.Sees (p.view header) := by
  refine ⟨list, named, ?_, ?_, ?_⟩
  · intro h member
    simp only [view, List.mem_toArray, List.mem_map] at member
    obtain ⟨e, _, rfl⟩ := member
    exact Heap.issued_handleAt null _
  · intro h member
    simp only [view, List.mem_toArray, List.mem_map] at member
    obtain ⟨e, _, rfl⟩ := member
    exact Heap.issued_handleAt null _
  · intro small g eq
    obtain rfl : UInt64.ofNat p.writes = g := Option.some.inj eq
    rw [UInt64.toNat_ofNat', Nat.mod_eq_of_lt (by omega)]
    exact ⟨Nat.le_refl _, fun _ => rfl⟩

/-- Handles of what is in a list stay. -/
theorem handles_eq (grows : p.heap.Grows q.heap) (formed : p.heap.Formed p.lists)
    (null : q.heap .null = none) (l : Addr) :
    ((p.lists l).map fun e => q.heap.handleAt e.item) =
        ((p.lists l).map fun e => p.heap.handleAt e.item) ∧
      ((p.lists l).map fun e => q.heap.handleAt e.content) =
        ((p.lists l).map fun e => p.heap.handleAt e.content) := by
  constructor
  · apply List.map_congr_left
    intro e member
    obtain ⟨i, found⟩ := List.getElem?_of_mem member
    exact grows.handleAt (formed.item l i e found)
  · apply List.map_congr_left
    intro e member
    obtain ⟨i, found⟩ := List.getElem?_of_mem member
    rcases formed.content l i e found with none | ⟨c, at_content, _⟩
    · rw [none, Heap.handleAt_of_none null, Heap.handleAt_of_none formed.null]
    · exact grows.handleAt at_content

/-- As long as no list is written an up-to-date view stays up to date. -/
theorem Evolves.view_eq (evolves : p.Evolves [] q) (formed : p.heap.Formed p.lists)
    (null : q.heap .null = none) (header : Descriptor) : q.view header = p.view header := by
  obtain ⟨items, values⟩ := handles_eq evolves.grows formed null header.addr
  simp only [view, evolves.lists_eq, items, values, evolves.writes, List.length_nil, Nat.add_zero]

theorem Sees.evolves (sees : p.Sees v) (evolves : p.Evolves changes q)
    (formed : p.heap.Formed p.lists) (null : q.heap .null = none) : q.Sees v := by
  refine ⟨evolves.grows.isList sees.header, sees.named.grows evolves.grows null, ?_, ?_, ?_⟩
  · intro h member
    exact (sees.items h member).grows evolves.grows null
  · intro h member
    exact (sees.values h member).grows evolves.grows null
  · intro small g built
    have count := evolves.writes
    obtain ⟨past, present⟩ := sees.current (by omega) g built
    refine ⟨by omega, ?_⟩
    intro now
    obtain rfl : changes = [] := List.eq_nil_of_length_eq_zero (by omega)
    rw [evolves.view_eq formed null]
    exact present (by omega)

theorem Sees.ne_of_unlisted (sees : p.Sees v) {l : Addr} (unlisted : ¬ p.heap.IsList l) :
    l ≠ v.header.addr := by
  intro same
  subst same
  exact unlisted sees.header

/-- The view of a list with an entry more. -/
theorem view_appended {b : Arena} {header : Descriptor} {content item kept : Handle}
    (shows : a.Shows p) (appends : a.Appended p header.addr content item kept b q) :
    q.view header = ⟨header, (p.view header).items.push item, (p.view header).values.push kept,
      some b.generation⟩ := by
  obtain ⟨items, values⟩ :=
    handles_eq appends.evolves.grows shows.formed appends.shows.formed.null header.addr
  have lists : q.lists header.addr = p.lists header.addr ++ [⟨item.addr, kept.addr⟩] := by
    rw [appends.evolves.lists]
    simp [Change.on]
  simp only [view, lists, List.map_append, items, values, List.map_singleton, List.push_toArray,
    ← appends.item_handle, ← appends.kept_handle, appends.shows.generation]

end Picture

namespace ListView

/-- If the view says that it is up to date, it is. -/
def Current (v : ListView) (a : Arena) (p : Picture) : Prop :=
  v.isFresh a = true → v = p.view v.header

variable {a : Arena} {p : Picture} {v : ListView} {content item : Handle}

theorem current_of_sees (shows : a.Shows p) (sees : p.Sees v)
    (small : p.writes < 0x10000000000000000) : v.Current a p := by
  intro fresh
  have built : v.builtAt = some (UInt64.ofNat p.writes) := by
    rw [← shows.generation]
    exact beq_iff_eq.mp fresh
  exact (sees.current small _ built).2 (by rw [UInt64.toNat_ofNat', Nat.mod_eq_of_lt (by omega)])

theorem isFresh_quiet {b : Arena} {q : Picture} (shows : a.Shows p) (shows_b : b.Shows q)
    (evolves : p.Evolves [] q) (v : ListView) : v.isFresh b = v.isFresh a := by
  rw [isFresh, isFresh, shows.generation, shows_b.generation, evolves.writes]
  rfl

theorem Current.quiet {b : Arena} {q : Picture} (current : v.Current a p) (shows : a.Shows p)
    (shows_b : b.Shows q) (evolves : p.Evolves [] q) : v.Current b q := by
  intro fresh
  rw [isFresh_quiet shows shows_b evolves] at fresh
  rw [evolves.view_eq shows.formed shows_b.formed.null]
  exact current fresh

/-- A view that was up to date is so still, or knows that it is not. Fewer writes than the count
can tell apart have come since. -/
theorem current_of_view {b : Arena} {q : Picture} {changes : List Change} {header : Descriptor}
    (shows : a.Shows p) (shows_b : b.Shows q) (evolves : p.Evolves changes q)
    (few : changes.length < 0x10000000000000000) : (p.view header).Current b q := by
  intro fresh
  have same : UInt64.ofNat p.writes = UInt64.ofNat q.writes := by
    rw [← shows_b.generation]
    exact Option.some.inj (beq_iff_eq.mp fresh)
  have none : changes.length % 0x10000000000000000 = 0 := by
    have congruent := congrArg UInt64.toNat same
    rw [UInt64.toNat_ofNat', UInt64.toNat_ofNat', evolves.writes] at congruent
    omega
  obtain rfl : changes = [] := List.eq_nil_of_length_eq_zero (by omega)
  exact (evolves.view_eq shows.formed shows_b.formed.null header).symm

/-- A read brings the view up to date first. -/
theorem ensureFresh_current (shows : a.Shows p) (list : p.heap.IsList v.header.addr)
    (current : v.Current a p) : ensureFresh a v = (.ok (), p.view v.header) := by
  cases fresh : v.isFresh a with
  | true =>
    simp only [ensureFresh, Step.view_bind, fresh, if_true]
    rw [← current fresh]
    rfl
  | false =>
    simp only [ensureFresh, Step.view_bind, fresh, Bool.false_eq_true, if_false]
    exact refresh_ok shows list

theorem ensureFresh_ok (shows : a.Shows p) (sees : p.Sees v)
    (small : p.writes < 0x10000000000000000) :
    ensureFresh a v = (.ok (), p.view v.header) :=
  ensureFresh_current shows sees.header (current_of_sees shows sees small)

theorem ensureFresh_sees (shows : a.Shows p) (sees : p.Sees v) :
    ∃ u, ensureFresh a v = (.ok (), u) ∧ p.Sees u ∧ u.header = v.header := by
  cases fresh : v.isFresh a with
  | true =>
    refine ⟨v, ?_, sees, rfl⟩
    simp only [ensureFresh, Step.view_bind, fresh, if_true]
    rfl
  | false =>
    refine ⟨_, ?_, Picture.sees_view shows.formed.null sees.header sees.named, rfl⟩
    simp only [ensureFresh, Step.view_bind, fresh, Bool.false_eq_true, if_false]
    exact refresh_ok shows sees.header

/-- Opening a list gives its up-to-date view. -/
theorem ofHandle_of_require (shows : a.Shows p) {h : Handle} {header : Descriptor}
    (issued : p.heap.Issued h) (required : h.require .list = .ok header) :
    h = .stored header ∧ p.heap.IsList header.addr ∧ ofHandle a h = .ok (p.view header) ∧
      p.Sees (p.view header) := by
  obtain ⟨c, found, kind, rfl, _⟩ := issued.require required
  have list := Heap.isList_of_kind found kind
  refine ⟨rfl, list, ?_, Picture.sees_view shows.formed.null list issued⟩
  have walked := refresh_ok shows (v := unread header) list
  rw [ofHandle, required]
  simp only [bind, Except.bind, walked]
  rfl

theorem ofHandle_cases (shows : a.Shows p) {h : Handle} (issued : p.heap.Issued h) :
    (∃ e, ofHandle a h = .error e) ∨
      ∃ header, h = .stored header ∧ ofHandle a h = .ok (p.view header) ∧
        p.Sees (p.view header) := by
  cases required : h.require .list with
  | error e =>
    refine .inl ⟨e, ?_⟩
    rw [ofHandle, required]
    rfl
  | ok header =>
    obtain ⟨named, _, opened, sees⟩ := ofHandle_of_require shows issued required
    exact .inr ⟨header, named, opened, sees⟩

/-- Every list opens from its address. -/
theorem ofHandle_of_isList (shows : a.Shows p) {l : Addr} (list : p.heap.IsList l) :
    ∃ header : Descriptor, header.addr = l ∧ a.decode l = .ok (.stored header) ∧
      ofHandle a (.stored header) = .ok (p.view header) ∧ p.Sees (p.view header) := by
  obtain ⟨first, last, count, found⟩ := list
  have decoded := Arena.decode_of_holds shows.holds found
  have issued := Heap.issued_handleAt shows.formed.null l
  have required := Heap.require_handleAt (shows.addr_ne_null found) found
  rw [Heap.handleAt_of_some found] at decoded issued required
  obtain ⟨_, _, opened, sees⟩ := ofHandle_of_require shows issued required
  exact ⟨_, rfl, decoded, opened, sees⟩

theorem reading_apply {x : Arena → Step MemoryError ListView α} {u : ListView}
    {result : Except MemoryError α} (ran : x a v = (result, u)) :
    reading x (v, a) = (result, (u, a)) := by simp only [reading, ran]

/-- A view stays as it is when an append through it fails. -/
theorem append_failed {e : MemoryError} {b : Arena}
    (failed : Arena.appendItem v.header content a = (.error e, b)) :
    append content (v, a) = (.error e, (v, b)) := by
  simp only [append, Step.view_bind]
  exact Step.bind_error (Step.onSecond_apply failed)

/-- The view with an item more, as of the arena's generation. -/
def pushed (v : ListView) (item kept : Handle) (b : Arena) : ListView :=
  ⟨v.header, v.items.push item, v.values.push kept, some b.generation⟩

/-- A view that is up to date stays so with the new item. -/
theorem pushed_eq_view {kept : Handle} {b : Arena} {q : Picture} (shows : a.Shows p)
    (appends : a.Appended p v.header.addr content item kept b q) (fresh : v.isFresh a = true)
    (current : v.Current a p) : v.pushed item kept b = q.view v.header := by
  rw [Picture.view_appended shows appends, ← current fresh, pushed]

theorem pushed_sees {kept : Handle} {b : Arena} {q : Picture} (shows : a.Shows p) (sees : p.Sees v)
    (appends : a.Appended p v.header.addr content item kept b q) (fresh : v.isFresh a = true) :
    q.Sees (v.pushed item kept b) := by
  have null := appends.shows.formed.null
  have sees_q := sees.evolves appends.evolves shows.formed null
  constructor
  case header => exact sees_q.header
  case named => exact sees_q.named
  case items =>
    intro h member
    rcases Array.mem_push.mp member with old | rfl
    · exact sees_q.items h old
    · rw [appends.item_handle]
      exact Heap.issued_handleAt null _
  case values =>
    intro h member
    rcases Array.mem_push.mp member with old | rfl
    · exact sees_q.values h old
    · rw [appends.kept_handle]
      exact Heap.issued_handleAt null _
  case current =>
    intro small g built
    have count := appends.evolves.writes
    have now := pushed_eq_view shows appends fresh (current_of_sees shows sees (by omega))
    rw [now] at built ⊢
    exact (Picture.sees_view null sees_q.header sees_q.named).current small g built

theorem append_cases (shows : a.Shows p) (sees : p.Sees v) (issued : p.heap.Issued content) :
    (∃ n m b q, append content (v, a) = (.error (.allocationFailed n m), (v, b)) ∧ b.Shows q ∧
      p.Evolves [] q ∧ a.Unappended content (p.lists v.header.addr).length b) ∨
    ∃ item kept b q u, append content (v, a) = (.ok item, (u, b)) ∧
      a.Appended p v.header.addr content item kept b q ∧ q.Sees u ∧ u.header = v.header ∧
      (v.Current a p → u = q.view v.header) := by
  rcases Arena.appendItem_cases shows sees.header issued with
    ⟨n, m, b, q, failed, shows_b, evolves, without⟩ | ⟨item, kept, b, q, appended, appends⟩
  · exact .inl ⟨n, m, b, q, append_failed failed, shows_b, evolves, without⟩
  -- A view that is up to date is extended in place, any other is built anew.
  cases fresh : v.isFresh a with
  | false =>
    have sees_q := sees.evolves appends.evolves shows.formed appends.shows.formed.null
    have sees_now := Picture.sees_view appends.shows.formed.null sees_q.header sees_q.named
    refine .inr ⟨item, kept, b, q, q.view v.header, ?_, appends, sees_now, rfl, fun _ => rfl⟩
    have walked : reading refresh (v, b) = (.ok (), (q.view v.header, b)) :=
      reading_apply (refresh_ok appends.shows sees_q.header)
    simp only [append, Step.view_bind, fresh]
    apply (Step.bind_ok (Step.onSecond_apply appended)).trans
    simp only [Bool.false_eq_true, if_false]
    rw [Step.bind_ok walked]
    rfl
  | true =>
    refine .inr ⟨item, kept, b, q, v.pushed item kept b, ?_, appends,
      pushed_sees shows sees appends fresh, rfl, pushed_eq_view shows appends fresh⟩
    simp only [append, Step.view_bind, fresh]
    apply (Step.bind_ok (Step.onSecond_apply appended)).trans
    rfl

/-- A new content through a view brings the view up to date. -/
theorem setContent_cases (shows : a.Shows p) (sees : p.Sees v) (issued_item : p.heap.Issued item)
    (issued : p.heap.Issued content) :
    (∃ e, setContent item content (v, a) = (.error e, (v, a)) ∧ a.Unfilled item content e) ∨
      ∃ kept b q, setContent item content (v, a) = (.ok (), (q.view v.header, b)) ∧
        Arena.Refilled p content item.addr kept b q ∧ q.Sees (q.view v.header) := by
  rcases Arena.setItemContent_cases shows issued_item issued with
    ⟨e, failed, cause⟩ | ⟨kept, b, q, replaced, refills⟩
  · exact .inl ⟨e, Step.bind_error (Step.onSecond_apply failed), cause⟩
  · have sees_q := sees.evolves refills.evolves shows.formed refills.shows.formed.null
    refine .inr ⟨kept, b, q, ?_, refills,
      Picture.sees_view refills.shows.formed.null sees_q.header sees_q.named⟩
    apply (Step.bind_ok (Step.onSecond_apply replaced)).trans
    exact reading_apply (refresh_ok refills.shows sees_q.header)

/-- Every read brings the view up to date and then only looks at it. -/
theorem read_apply {u : ListView} (fresh : ensureFresh a v = (.ok (), u))
    (f : ListView → Except MemoryError α) :
    (ensureFresh a >>= fun _ => Step.view f) v = (f u, u) := by
  rw [Step.bind_ok fresh]
  rfl

/-- The item at an index of an up-to-date view. -/
theorem view_items_getElem? (p : Picture) (header : Descriptor) (index : Nat) :
    (p.view header).items[index]? =
      (p.lists header.addr)[index]?.map fun e => p.heap.handleAt e.item := by
  simp [Picture.view]

theorem view_values_getElem? (p : Picture) (header : Descriptor) (index : Nat) :
    (p.view header).values[index]? =
      (p.lists header.addr)[index]?.map fun e => p.heap.handleAt e.content := by
  simp [Picture.view]

/-- The handle of an item in a list names that item. -/
theorem handleAt_item_addr (shows : a.Shows p) {l : Addr} {i : Nat} {e : Entry}
    (found : (p.lists l)[i]? = some e) : (p.heap.handleAt e.item).addr = e.item := by
  rw [Heap.handleAt_of_some (shows.formed.item l i e found)]
  rfl

/-- The item that a read at the index answers takes another content. -/
theorem setContentAt_cases (shows : a.Shows p) (sees : p.Sees v) (index : Nat)
    (issued : p.heap.Issued content) :
    (∃ e u, setContentAt index content (v, a) = (.error e, (u, a)) ∧ p.Sees u ∧
      u.header = v.header ∧ ((ListView.item a index v).1 = .error e ∨
        ∃ target, (ListView.item a index v).1 = .ok target ∧ a.Unfilled target content e)) ∨
    ∃ target kept b q, setContentAt index content (v, a) = (.ok (), (q.view v.header, b)) ∧
      Arena.Refilled p content target.addr kept b q ∧ q.Sees (q.view v.header) ∧
      (ListView.item a index v).1 = .ok target := by
  obtain ⟨u, fresh, sees_u, header⟩ := ensureFresh_sees shows sees
  have answer : ListView.item a index v = _ := read_apply fresh _
  have looked := reading_apply (x := fun a => ListView.item a index) answer
  cases found : u.items[index]? with
  | none =>
    simp only [found] at looked answer
    exact .inl ⟨_, u, Step.bind_error looked, sees_u, header, .inl (by rw [answer])⟩
  | some target =>
    simp only [found] at looked answer
    have issued_target := sees_u.items target (Array.mem_of_getElem? found)
    rcases setContent_cases shows sees_u issued_target issued with
      ⟨e, failed, cause⟩ | ⟨kept, b, q, replaced, refills, sees_q⟩
    · exact .inl ⟨e, u, (Step.bind_ok looked).trans failed, sees_u, header,
        .inr ⟨target, by rw [answer], cause⟩⟩
    · rw [header] at replaced sees_q
      exact .inr ⟨target, kept, b, q, (Step.bind_ok looked).trans replaced, refills, sees_q,
        by rw [answer]⟩

end ListView
end ValueArena
