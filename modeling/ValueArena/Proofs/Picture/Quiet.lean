import ValueArena.Arena.Assignment
import ValueArena.Arena.Arithmetic
import ValueArena.Arena.Writing
import ValueArena.Proofs.Picture.Basic

/-!
The operations that write no list: those that create values, overwrite numbers in place, assign or
compute. Whether they succeed or fail, the arena shows a picture with the same sequences.
-/
namespace ValueArena

/-- A literal or an issued handle. -/
def Source.Issued (heap : Heap) : Source → Prop
  | .number _ | .text _ => True
  | .handle h => heap.Issued h

namespace Arena

/-- The operation writes no list, and what it returns fits the heap that it leaves. -/
def Quietly (a : Arena) (p : Picture) (x : ArenaStep α) (fits : Heap → α → Prop) : Prop :=
  ∃ q, (x a).2.Shows q ∧ p.Evolves [] q ∧ ∀ v, (x a).1 = .ok v → fits q.heap v

variable {a b : Arena} {p q : Picture} {fits : Heap → α → Prop}

theorem quietly_of_error {x : ArenaStep α} {e : MemoryError} (ran : x a = (.error e, b))
    (shows : b.Shows q) (evolves : p.Evolves [] q) : a.Quietly p x fits := by
  refine ⟨q, ?_, evolves, ?_⟩
  · rw [ran]
    exact shows
  · rw [ran]
    exact nofun

theorem quietly_of_ok {x : ArenaStep α} {v : α} (ran : x a = (.ok v, b)) (shows : b.Shows q)
    (evolves : p.Evolves [] q) (fit : fits q.heap v) : a.Quietly p x fits := by
  refine ⟨q, ?_, evolves, ?_⟩
  · rw [ran]
    exact shows
  · rw [ran]
    intro _ eq
    cases eq
    exact fit

theorem quietly_pure (shows : a.Shows p) {v : α} (fit : fits p.heap v) :
    a.Quietly p (pure v) fits := quietly_of_ok rfl shows (.refl p) fit

theorem quietly_fail (shows : a.Shows p) (e : MemoryError) : a.Quietly p (.fail e) fits :=
  quietly_of_error rfl shows (.refl p)

theorem quietly_view (shows : a.Shows p) {f : Arena → Except MemoryError α}
    (fit : ∀ v, f a = .ok v → fits p.heap v) : a.Quietly p (.view f) fits :=
  ⟨p, shows, .refl p, fit⟩

theorem quietly_look (shows : a.Shows p) (f : Arena → Except MemoryError α) :
    a.Quietly p (.view f) fun _ _ => True := quietly_view shows fun _ _ => trivial

/-- Looking first changes nothing. -/
theorem quietly_bind_view (shows : a.Shows p) {f : Arena → Except MemoryError β}
    {x : β → ArenaStep α} (next : ∀ v, f a = .ok v → a.Quietly p (x v) fits) :
    a.Quietly p (.view f >>= x) fits := by
  cases looked : f a with
  | error e =>
    refine quietly_of_error (e := e) (b := a) ?_ shows (.refl p)
    simp only [Step.view_bind, looked]
  | ok v =>
    have same : (Step.view f >>= x) a = x v a := by simp only [Step.view_bind, looked]
    simp only [Quietly, same]
    exact next v looked

theorem quietly_bind {x : ArenaStep α} {f : α → ArenaStep β} {fits' : Heap → β → Prop}
    (first : a.Quietly p x fits)
    (second : ∀ b q v, b.Shows q → p.Evolves [] q → fits q.heap v → x a = (.ok v, b) →
      b.Quietly q (f v) fits') : a.Quietly p (x >>= f) fits' := by
  obtain ⟨q, shows, evolves, fit⟩ := first
  obtain ⟨result, b, ran⟩ : ∃ result b, x a = (result, b) := ⟨_, _, rfl⟩
  rw [ran] at shows fit
  cases result with
  | error e => exact quietly_of_error (Step.bind_error ran) shows evolves
  | ok v =>
    obtain ⟨r, shows', evolves', fit'⟩ := second b q v shows evolves (fit v rfl) ran
    refine ⟨r, ?_, evolves.trans_quiet evolves', ?_⟩
    · rw [Step.bind_ok ran]
      exact shows'
    · rw [Step.bind_ok ran]
      exact fit'

theorem quietly_create (shows : a.Shows p) (content : Content) :
    a.Quietly p (create content) Heap.Issued := by
  rcases create_cases shows.holds.bounded content with ⟨n, m, failed, _⟩ | ⟨h, b, made, adds⟩
  · exact quietly_of_error failed shows (.refl p)
  · have creates := adds.creates shows.holds
    obtain ⟨shows_b, evolves⟩ := shows.create creates
    exact quietly_of_ok made shows_b evolves creates.issued

theorem quietly_createDouble (shows : a.Shows p) (v : Binary64) :
    a.Quietly p (createDouble v) Heap.Issued := quietly_create shows (.double v)

theorem quietly_createString (shows : a.Shows p) (v : String) :
    a.Quietly p (createString v) Heap.Issued := quietly_create shows (.string v)

/-- A list more, and what the arena then shows. -/
theorem Shows.add_list (shows : a.Shows p) {h : Handle}
    (adds : a.Adds (.list .null .null 0) h b) :
    Creates a p.heap (.list .null .null 0) h b ∧
      b.Shows (p.add h.addr (.list .null .null 0) b.store.room) ∧
      p.Evolves [] (p.add h.addr (.list .null .null 0) b.store.room) := by
  have creates := adds.creates shows.holds
  exact ⟨creates, shows.create_list creates⟩

/-- A new list is a list that was not there. -/
theorem quietly_createList (shows : a.Shows p) :
    a.Quietly p createList fun heap h =>
      heap.Issued h ∧ heap.IsList h.addr ∧ p.heap h.addr = none := by
  rcases createList_cases shows.holds.bounded with ⟨n, m, failed, _⟩ | ⟨h, b, made, adds⟩
  · exact quietly_of_error failed shows (.refl p)
  · obtain ⟨creates, shows_b, evolves⟩ := shows.add_list adds
    exact quietly_of_ok made shows_b evolves
      ⟨creates.issued, ⟨_, _, _, Heap.put_self ..⟩, creates.fresh⟩

/-- No object has a list that is not there. -/
theorem Shows.not_owns (shows : a.Shows p) {o l : Addr} {c : Cell} (found : p.heap o = some c)
    (absent : p.heap l = none) : ¬ c.Owns l := by
  intro owns
  obtain ⟨keys, values, rfl⟩ := owns.object
  obtain ⟨keys_list, values_list, _⟩ := shows.formed.object o keys values found
  have unlisted := Heap.not_isList_of_fresh absent
  rcases owns with rfl | rfl
  · exact unlisted keys_list
  · exact unlisted values_list

/-- Whatever is left of a new object that was not finished is lists without an owner. -/
theorem quietly_createObject (shows : a.Shows p) :
    a.Quietly p createObject fun heap h =>
      heap.Issued h ∧ (∃ keys values, heap h.addr = some (.object keys values) ∧
        p.heap keys = none ∧ p.heap values = none) ∧
      ∀ x c, p.heap x = some c → heap x = some c := by
  obtain ⟨result, b, ran, outcome⟩ := createObject_cases shows.holds.bounded
  cases outcome with
  | nothing n m => exact quietly_of_error ran shows (.refl p)
  | keys n m keys a₁ adds =>
    obtain ⟨_, shows₁, evolves₁⟩ := shows.add_list adds
    exact quietly_of_error ran shows₁ evolves₁
  | lists n m keys values a₁ a₂ adds_keys adds_values =>
    obtain ⟨_, shows₁, evolves₁⟩ := shows.add_list adds_keys
    obtain ⟨_, shows₂, evolves₂⟩ := shows₁.add_list adds_values
    exact quietly_of_error ran shows₂ (evolves₁.trans_quiet evolves₂)
  | whole h keys values a₁ a₂ b adds_keys adds_values adds =>
    obtain ⟨new_keys, shows₁, evolves₁⟩ := shows.add_list adds_keys
    obtain ⟨new_values, shows₂, evolves₂⟩ := shows₁.add_list adds_values
    have creates := adds.creates shows₂.holds
    have fresh_values : p.heap values.addr = none := evolves₁.fresh new_values.fresh
    -- No object of the first picture has the new lists, and the lists themselves own nothing.
    have free : ∀ l, p.heap l = none → ∀ o c, ((p.heap.put keys.addr (.list .null .null 0)).put
        values.addr (.list .null .null 0)) o = some c → ¬ c.Owns l := by
      intro l absent o c found owns
      have before := Heap.owner_before (Heap.owner_before found owns) owns
      exact shows.not_owns before absent owns
    have formed := shows₂.formed.put_object creates.addr_ne_null creates.fresh
      (evolves₂.grows.isList ⟨_, _, _, Heap.put_self ..⟩) ⟨_, _, _, Heap.put_self ..⟩
      (Heap.ne_of_fresh (Heap.put_self ..) new_values.fresh)
      fun o c found => ⟨free _ new_keys.fresh o c found, free _ fresh_values o c found⟩
    have evolves := (evolves₁.trans_quiet evolves₂).add_object creates.fresh new_keys.fresh
      fresh_values (shows₂.room_leads creates)
    refine quietly_of_ok ran (shows₂.add_cell creates formed) evolves
      ⟨creates.issued, ⟨_, _, Heap.put_self .., new_keys.fresh, fresh_values⟩, ?_⟩
    intro x c found
    exact Heap.put_fresh creates.fresh
      (Heap.put_fresh new_values.fresh (Heap.put_fresh new_keys.fresh found _) _) _

/-- A number in place of another of its kind. -/
theorem quietly_write (shows : a.Shows p) [FixedWidth α] {h : Handle} {d : Descriptor} {kind : Kind}
    (issued : p.heap.Issued h) (required : h.require kind = .ok d) {content : α → Content}
    (numbers : Numbers kind content) (v : α) :
    a.Quietly p (write d.payload v) fun _ _ => True := by
  obtain ⟨c, found, kind_c, _, _⟩ := issued.require required
  obtain ⟨old, b, rfl, becomes, wrote, rewrites⟩ :=
    write_number shows.holds numbers found kind_c v
  obtain ⟨shows_b, evolves⟩ := shows.rewrite_plain found becomes rewrites
  exact quietly_of_ok wrote shows_b evolves trivial

theorem quietly_setPayload (shows : a.Shows p) [FixedWidth α] {h : Handle} {kind : Kind}
    (issued : p.heap.Issued h) {content : α → Content} (numbers : Numbers kind content) (v : α) :
    a.Quietly p (setPayload kind h v) fun _ _ => True := by
  apply quietly_bind_view shows
  intro d required
  exact quietly_write shows issued required numbers v

theorem quietly_setInteger (shows : a.Shows p) {h : Handle} (issued : p.heap.Issued h) (v : Int32) :
    a.Quietly p (setInteger h v) fun _ _ => True := quietly_setPayload shows issued integers v

theorem quietly_setLong (shows : a.Shows p) {h : Handle} (issued : p.heap.Issued h) (v : Int64) :
    a.Quietly p (setLong h v) fun _ _ => True := quietly_setPayload shows issued longs v

theorem quietly_setDouble (shows : a.Shows p) {h : Handle} (issued : p.heap.Issued h)
    (v : Binary64) : a.Quietly p (setDouble h v) fun _ _ => True :=
  quietly_setPayload shows issued doubles v

theorem quietly_apply (shows : a.Shows p) {target : Handle} (issued : p.heap.Issued target)
    (op : Operation) (source : Source) :
    a.Quietly p (apply op target source) fun _ _ => True := by
  apply quietly_bind_view shows
  intro d required
  apply quietly_bind_view shows
  intro right _
  apply quietly_bind_view shows
  intro left _
  refine quietly_bind (quietly_write shows issued required doubles _) ?_
  intro b q _ shows_b _ _ _
  exact quietly_pure shows_b trivial

theorem quietly_number (shows : a.Shows p) (unsupported : MemoryError) (ofLiteral : Binary64 → α)
    (read : Arena → Handle → Except MemoryError α) (source : Source) :
    a.Quietly p (Assignment.number unsupported ofLiteral read source) fun _ _ => True := by
  unfold Assignment.number
  split
  · exact quietly_pure shows trivial
  · split
    · exact quietly_look shows _
    · exact quietly_fail shows _
  · exact quietly_fail shows _

/-- A number from a source written over the target's. -/
theorem quietly_overwrite [FixedWidth α] {old : Handle} {d : Descriptor}
    {kind : Kind} (issued : p.heap.Issued old) (required : old.require kind = .ok d)
    {content : α → Content} (numbers : Numbers kind content)
    {x : ArenaStep α} (number : a.Quietly p x fun _ _ => True) :
    a.Quietly p (do write d.payload (← x); pure old) Heap.Issued := by
  apply quietly_bind number
  intro b q v shows_b evolves _ _
  have issued_b := issued.grows evolves.grows shows_b.formed.null
  refine quietly_bind (quietly_write shows_b issued_b required numbers v) ?_
  intro c r _ shows_c evolves' _ _
  exact quietly_pure shows_c (issued_b.grows evolves'.grows shows_c.formed.null)

/-- Whatever a target comes to name is an issued handle. -/
theorem quietly_target (shows : a.Shows p) {old : Handle} (issued : p.heap.Issued old)
    {source : Source} (issued_source : source.Issued p.heap) :
    a.Quietly p (Assignment.target old source) Heap.Issued := by
  unfold Assignment.target
  dsimp only
  split
  · split
    · exact quietly_createDouble shows _
    · exact quietly_createString shows _
    · split
      · apply quietly_bind_view shows
        intro v _
        exact quietly_createDouble shows v
      · split
        · exact quietly_pure shows issued_source
        · exact quietly_fail shows _
  · apply quietly_bind (quietly_number shows _ _ _ _)
    intro b q v shows_b _ _ _
    exact quietly_pure shows_b trivial
  · apply quietly_bind_view shows
    intro d required
    exact quietly_overwrite issued required integers (quietly_number shows _ _ _ _)
  · apply quietly_bind_view shows
    intro d required
    exact quietly_overwrite issued required doubles (quietly_number shows _ _ _ _)
  · split
    · exact quietly_createString shows _
    · exact quietly_createString shows _
    · split
      · apply quietly_bind_view shows
        intro v _
        exact quietly_createString shows v
      · exact quietly_fail shows _
  · exact quietly_fail shows _

theorem quietly_assign (shows : a.Shows p) {old : Handle} (issued : p.heap.Issued old)
    {source : Source} (issued_source : source.Issued p.heap) :
    a.Quietly p (.starting old (ValueArena.assign source)) fun heap r => heap.Issued r.2 := by
  obtain ⟨q, shows_b, evolves, fit⟩ := quietly_target shows issued issued_source
  obtain ⟨result, b, ran⟩ : ∃ result b, Assignment.target old source a = (result, b) :=
    ⟨_, _, rfl⟩
  rw [ran] at shows_b fit
  cases result with
  | error e =>
    refine quietly_of_error (e := e) (b := b) ?_ shows_b evolves
    simp only [Step.starting, ValueArena.assign, ran]
  | ok new =>
    refine quietly_of_ok (v := ((), new)) (b := b) ?_ shows_b evolves (fit new rfl)
    simp only [Step.starting, ValueArena.assign, ran]

end Arena
end ValueArena
