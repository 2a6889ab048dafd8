/-!
Maps from keys to values, and tables as one of them: the entries stand in the order in which their
keys came first, and a later value under the same key replaces the earlier one.
-/
namespace ValueArena

/-- What a map from keys to values offers. -/
class KeyMap (T : Type → Type → Type) where
  empty : T κ α
  find? [DecidableEq κ] : T κ α → κ → Option α
  insert [DecidableEq κ] : T κ α → κ → α → T κ α
  size : T κ α → Nat

/-- A correct map finds the last value that came under a key, and counts its keys. -/
class LawfulKeyMap (T : Type → Type → Type) [KeyMap T] : Prop where
  find?_empty [DecidableEq κ] (key : κ) : KeyMap.find? (KeyMap.empty : T κ α) key = none
  find?_insert [DecidableEq κ] (m : T κ α) (key other : κ) (value : α) :
    KeyMap.find? (KeyMap.insert m key value) other =
      if other = key then some value else KeyMap.find? m other
  size_empty : KeyMap.size (KeyMap.empty : T κ α) = 0
  size_insert [DecidableEq κ] (m : T κ α) (key : κ) (value : α) :
    KeyMap.size (KeyMap.insert m key value) =
      if (KeyMap.find? m key).isSome then KeyMap.size m else KeyMap.size m + 1

structure Table (κ α : Type) where
  entries : List (κ × α)
  deriving DecidableEq, Repr

namespace Table

variable {κ α : Type} [DecidableEq κ]

def empty : Table κ α := ⟨[]⟩

def find? (t : Table κ α) (key : κ) : Option α :=
  (t.entries.find? (·.1 = key)).map (·.2)

/-- A key keeps its place when its value is replaced. -/
def insertEntry (key : κ) (value : α) : List (κ × α) → List (κ × α)
  | [] => [(key, value)]
  | entry :: rest =>
    if entry.1 = key then (key, value) :: rest else entry :: insertEntry key value rest

def insert (t : Table κ α) (key : κ) (value : α) : Table κ α := ⟨insertEntry key value t.entries⟩

def size (t : Table κ α) : Nat := t.entries.length

@[simp] theorem find?_empty (key : κ) : (empty : Table κ α).find? key = none := rfl

theorem find?_insert (t : Table κ α) (key other : κ) (value : α) :
    (t.insert key value).find? other = if other = key then some value else t.find? other := by
  obtain ⟨entries⟩ := t
  simp only [insert, find?]
  induction entries with
  | nil => by_cases h : other = key <;> simp [insertEntry, h, Ne.symm]
  | cons entry rest ih =>
    by_cases same : entry.1 = key
    · by_cases h : other = key
      · simp [insertEntry, same, h]
      · have differs : key ≠ other := Ne.symm h
        simp [insertEntry, same, h, differs]
    · by_cases h : entry.1 = other
      · have differs : other ≠ key := fun e => same (h.trans e)
        simp [insertEntry, h, differs]
      · simpa [insertEntry, same, h] using ih

/-- A new key adds an entry. -/
theorem length_insertEntry (key : κ) (value : α) (entries : List (κ × α)) :
    (insertEntry key value entries).length =
      if (entries.find? (·.1 = key)).isSome then entries.length else entries.length + 1 := by
  induction entries with
  | nil => rfl
  | cons entry rest ih =>
    by_cases same : entry.1 = key
    · simp [insertEntry, same]
    · simp only [insertEntry, same, if_false, List.length_cons, ih, List.find?_cons, decide_false]
      split <;> rfl

theorem size_insert (t : Table κ α) (key : κ) (value : α) :
    (t.insert key value).size = if (t.find? key).isSome then t.size else t.size + 1 := by
  rw [size, insert, length_insertEntry, find?, Option.isSome_map]
  rfl

end Table

instance : KeyMap Table := ⟨.empty, Table.find?, Table.insert, Table.size⟩

instance : LawfulKeyMap Table := ⟨Table.find?_empty, Table.find?_insert, rfl, Table.size_insert⟩

end ValueArena
