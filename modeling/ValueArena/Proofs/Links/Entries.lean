import ValueArena.Memory.Addr

/-!
What a list holds, as a sequence: its items in order, each with the address of its content. A write
either appends an entry to one list or gives one item another content.
-/
namespace ValueArena

structure Entry where
  item : Addr
  content : Addr
  deriving DecidableEq, Repr

/-- The item at an index, null past the end. -/
def itemAt (es : List Entry) (i : Nat) : Addr := (es[i]?.map Entry.item).getD .null

def Entry.refill (item content : Addr) (e : Entry) : Entry :=
  if e.item = item then ⟨item, content⟩ else e

inductive Change where
  | append (list : Addr) (e : Entry)
  | replace (item content : Addr)
  deriving DecidableEq, Repr

/-- What a change makes of the list at an address. -/
def Change.on (list : Addr) (es : List Entry) : Change → List Entry
  | .append other e => if list = other then es ++ [e] else es
  | .replace item content => es.map (Entry.refill item content)

theorem itemAt_of_getElem? {es : List Entry} {i : Nat} {e : Entry} (found : es[i]? = some e) :
    itemAt es i = e.item := by simp [itemAt, found]

theorem itemAt_of_length_le {es : List Entry} {i : Nat} (past : es.length ≤ i) :
    itemAt es i = .null := by simp [itemAt, past]

theorem itemAt_append_of_lt {es : List Entry} {i : Nat} (inside : i < es.length) (e : Entry) :
    itemAt (es ++ [e]) i = itemAt es i := by
  simp [itemAt, List.getElem?_append_left inside]

theorem itemAt_append_length (es : List Entry) (e : Entry) :
    itemAt (es ++ [e]) es.length = e.item := by simp [itemAt]

theorem Entry.refill_item (item content : Addr) (e : Entry) :
    (e.refill item content).item = e.item := by
  unfold refill
  split
  case isTrue same => exact same.symm
  case isFalse => rfl

theorem itemAt_refill (item content : Addr) (es : List Entry) (i : Nat) :
    itemAt (es.map (Entry.refill item content)) i = itemAt es i := by
  simp only [itemAt, List.getElem?_map, Option.map_map, Function.comp_def, Entry.refill_item]

/-- An entry after an append is the new one or was there before. -/
theorem getElem?_append_cases {es : List Entry} {e f : Entry} {i : Nat}
    (found : (es ++ [e])[i]? = some f) : es[i]? = some f ∨ i = es.length ∧ f = e := by
  by_cases inside : i < es.length
  · rw [List.getElem?_append_left inside] at found
    exact .inl found
  · rw [List.getElem?_append_right (by omega)] at found
    obtain ⟨at_zero, rfl⟩ := List.getElem?_eq_some_iff.mp found
    simp only [List.length_singleton] at at_zero
    exact .inr ⟨by omega, by simp⟩

theorem getElem?_append_of_some {es : List Entry} {f : Entry} {i : Nat} (found : es[i]? = some f)
    (e : Entry) : (es ++ [e])[i]? = some f := by
  have inside := (List.getElem?_eq_some_iff.mp found).1
  rw [List.getElem?_append_left inside, found]

theorem getElem?_on_append {es : List Entry} {l m : Addr} {e f : Entry} {i : Nat}
    (found : (Change.on m es (.append l e))[i]? = some f) :
    es[i]? = some f ∨ m = l ∧ i = es.length ∧ f = e := by
  simp only [Change.on] at found
  split at found
  case isTrue same =>
    rcases getElem?_append_cases found with old | ⟨last, rfl⟩
    · exact .inl old
    · exact .inr ⟨same, last, rfl⟩
  case isFalse => exact .inl found

theorem getElem?_on_append_of_some {es : List Entry} {f : Entry} {i : Nat}
    (found : es[i]? = some f) (l m : Addr) (e : Entry) :
    (Change.on m es (.append l e))[i]? = some f := by
  simp only [Change.on]
  split
  · exact getElem?_append_of_some found e
  · exact found

theorem getElem?_refill {es : List Entry} {item content : Addr} {f : Entry} {i : Nat} :
    (es.map (Entry.refill item content))[i]? = some f ↔
      ∃ e, es[i]? = some e ∧ e.refill item content = f := by
  simp [List.getElem?_map]

end ValueArena
