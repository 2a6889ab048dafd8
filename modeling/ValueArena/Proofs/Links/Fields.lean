import ValueArena.Collection.LinkedList
import ValueArena.Proofs.Heap.Creation
import ValueArena.Proofs.Heap.Growth

/-!
The fields of lists, items and objects: what is read from them, and what a write to one of them
makes of the heap. A number is overwritten as a whole.
-/
namespace ValueArena.Arena

/-- `b` is `a` with one cell overwritten. -/
structure Rewrites (a : Arena) (heap : Heap) (b : Arena) : Prop where
  holds : b.store.Holds heap
  generation : b.generation = a.generation
  room : b.store.room = a.store.room

variable {a : Arena} {heap : Heap} {addr : Addr}

theorem writeField_of_holds (holds : a.store.Holds heap) {c : Cell} (found : heap addr = some c)
    [FixedWidth α] (f : Field) (d : Cell) (v : α) (before old after : List UInt8)
    (cut : c.bytes = before ++ old ++ after) (width : old.length = FixedWidth.width α)
    (start : before.length = f.distance.toNat)
    (changed : d.bytes = before ++ FixedWidth.encode v ++ after) :
    ∃ b, writeField addr f v a = (.ok (), b) ∧ a.Rewrites (heap.put addr d) b := by
  obtain ⟨s, stored, room, holds⟩ :=
    holds.store_field found f d v before old after cut width start changed
  exact ⟨_, writeField_apply stored, holds, rfl, room⟩

theorem write_payload_of_holds (holds : a.store.Holds heap) {c : Cell} (found : heap addr = some c)
    [FixedWidth α] {d : Cell} {v : α} (kind : Kind) (size : UInt32) (same : d.kind = c.kind)
    (width : c.payload.length = FixedWidth.width α) (wide : 0 < FixedWidth.width α)
    (content : d.payload = FixedWidth.encode v) :
    ∃ b, write (Descriptor.payload ⟨kind, size, addr⟩) v a = (.ok (), b) ∧
      a.Rewrites (heap.put addr d) b := by
  obtain ⟨s, stored, room, holds⟩ :=
    holds.store_payload found kind size same width wide content
  exact ⟨_, write_apply stored, holds, rfl, room⟩

/-- The numbers of a type, as contents of one kind that is overwritten in place. -/
structure Numbers [FixedWidth α] (k : Kind) (content : α → Content) : Prop where
  kind : ∀ v, (content v).kind = k
  rewritten : k.isRewritten = true
  payload : ∀ v, (content v).payload = FixedWidth.encode v
  wide : 0 < FixedWidth.width α

theorem integers : Numbers .integer Content.integer :=
  ⟨fun _ => rfl, rfl, fun _ => rfl, by decide⟩

theorem longs : Numbers .long Content.long := ⟨fun _ => rfl, rfl, fun _ => rfl, by decide⟩

theorem doubles : Numbers .double Content.double := ⟨fun _ => rfl, rfl, fun _ => rfl, by decide⟩

/-- A number in place of another of its kind. -/
theorem write_number (holds : a.store.Holds heap) [FixedWidth α] {k : Kind} {content : α → Content}
    (numbers : Numbers k content) {d : Descriptor} {c : Cell} (found : heap d.addr = some c)
    (kind : c.kind = k) (v : α) :
    ∃ old b, c = .plain old ∧ c.Becomes (.plain (content v)) ∧ write d.payload v a = (.ok (), b) ∧
      a.Rewrites (heap.put d.addr (.plain (content v))) b := by
  obtain ⟨old, rfl⟩ := Cell.eq_plain_of_kind (content v) (kind.trans (numbers.kind v).symm)
  have same : (Cell.plain (content v)).kind = (Cell.plain old).kind :=
    (numbers.kind v).trans kind.symm
  have becomes := Cell.becomes_of_rewritten same (by rw [kind, numbers.rewritten])
  have fixed : (Cell.plain old).kind ≠ .string := by
    intro string
    have rewritten := numbers.rewritten
    rw [← kind, string] at rewritten
    cases rewritten
  have width : (Cell.plain old).payload.length = FixedWidth.width α := by
    rw [Cell.payload_length fixed, ← same, ← Cell.payload_length (by rw [same]; exact fixed)]
    exact (congrArg List.length (numbers.payload v)).trans (FixedWidth.length_encode v)
  obtain ⟨b, wrote, rewrites⟩ :=
    write_payload_of_holds holds found d.kind d.size same width numbers.wide (numbers.payload v)
  exact ⟨old, b, rfl, becomes, wrote, rewrites⟩

section List

variable {first last : Addr} {count : UInt32}

theorem load_listFirst (lies : a.store.Lies addr (.list first last count)) :
    a.loadField Addr addr .listFirst = .ok first :=
  lies.load_field .listFirst first [Kind.list.tag]
    (FixedWidth.encode last ++ FixedWidth.encode count)
    (by simp [Cell.bytes, Cell.payload, Cell.kind]) rfl

theorem load_listLast (lies : a.store.Lies addr (.list first last count)) :
    a.loadField Addr addr .listLast = .ok last :=
  lies.load_field .listLast last (Kind.list.tag :: FixedWidth.encode first)
    (FixedWidth.encode count) (by simp [Cell.bytes, Cell.payload, Cell.kind])
    (by simp [FixedWidth.length_encode]; rfl)

theorem load_listCount (lies : a.store.Lies addr (.list first last count)) :
    a.loadField UInt32 addr .listCount = .ok count :=
  lies.load_field .listCount count
    (Kind.list.tag :: FixedWidth.encode first ++ FixedWidth.encode last) []
    (by simp [Cell.bytes, Cell.payload, Cell.kind]) (by simp [FixedWidth.length_encode]; rfl)

variable (holds : a.store.Holds heap) (found : heap addr = some (.list first last count))
include holds found

theorem write_listFirst (v : Addr) :
    ∃ b, writeField addr .listFirst v a = (.ok (), b) ∧
      a.Rewrites (heap.put addr (.list v last count)) b :=
  writeField_of_holds holds found .listFirst (.list v last count) v [Kind.list.tag]
    (FixedWidth.encode first) (FixedWidth.encode last ++ FixedWidth.encode count)
    (by simp [Cell.bytes, Cell.payload, Cell.kind]) (FixedWidth.length_encode _) rfl
    (by simp [Cell.bytes, Cell.payload, Cell.kind])

theorem write_listLast (v : Addr) :
    ∃ b, writeField addr .listLast v a = (.ok (), b) ∧
      a.Rewrites (heap.put addr (.list first v count)) b :=
  writeField_of_holds holds found .listLast (.list first v count) v
    (Kind.list.tag :: FixedWidth.encode first) (FixedWidth.encode last) (FixedWidth.encode count)
    (by simp [Cell.bytes, Cell.payload, Cell.kind]) (FixedWidth.length_encode _)
    (by simp [FixedWidth.length_encode]; rfl) (by simp [Cell.bytes, Cell.payload, Cell.kind])

theorem write_listCount (v : UInt32) :
    ∃ b, writeField addr .listCount v a = (.ok (), b) ∧
      a.Rewrites (heap.put addr (.list first last v)) b :=
  writeField_of_holds holds found .listCount (.list first last v) v
    (Kind.list.tag :: FixedWidth.encode first ++ FixedWidth.encode last)
    (FixedWidth.encode count) []
    (by simp [Cell.bytes, Cell.payload, Cell.kind]) (FixedWidth.length_encode _)
    (by simp [FixedWidth.length_encode]; rfl) (by simp [Cell.bytes, Cell.payload, Cell.kind])

end List

section Item

variable {content next : Addr}

theorem load_itemContent (lies : a.store.Lies addr (.item content next)) :
    a.loadField Addr addr .itemContent = .ok content :=
  lies.load_field .itemContent content [Kind.listItem.tag] (FixedWidth.encode next)
    (by simp [Cell.bytes, Cell.payload, Cell.kind]) rfl

theorem load_itemNext (lies : a.store.Lies addr (.item content next)) :
    a.loadField Addr addr .itemNext = .ok next :=
  lies.load_field .itemNext next (Kind.listItem.tag :: FixedWidth.encode content) []
    (by simp [Cell.bytes, Cell.payload, Cell.kind]) (by simp [FixedWidth.length_encode]; rfl)

variable (holds : a.store.Holds heap) (found : heap addr = some (.item content next))
include holds found

theorem write_itemContent (v : Addr) :
    ∃ b, writeField addr .itemContent v a = (.ok (), b) ∧
      a.Rewrites (heap.put addr (.item v next)) b :=
  writeField_of_holds holds found .itemContent (.item v next) v [Kind.listItem.tag]
    (FixedWidth.encode content) (FixedWidth.encode next)
    (by simp [Cell.bytes, Cell.payload, Cell.kind]) (FixedWidth.length_encode _) rfl
    (by simp [Cell.bytes, Cell.payload, Cell.kind])

theorem write_itemNext (v : Addr) :
    ∃ b, writeField addr .itemNext v a = (.ok (), b) ∧
      a.Rewrites (heap.put addr (.item content v)) b :=
  writeField_of_holds holds found .itemNext (.item content v) v
    (Kind.listItem.tag :: FixedWidth.encode content) (FixedWidth.encode next) []
    (by simp [Cell.bytes, Cell.payload, Cell.kind]) (FixedWidth.length_encode _)
    (by simp [FixedWidth.length_encode]; rfl) (by simp [Cell.bytes, Cell.payload, Cell.kind])

end Item

section Object

variable {keys values : Addr}

theorem load_objectKeys (lies : a.store.Lies addr (.object keys values)) :
    a.loadField Addr addr .objectKeys = .ok keys :=
  lies.load_field .objectKeys keys [Kind.object.tag] (FixedWidth.encode values)
    (by simp [Cell.bytes, Cell.payload, Cell.kind]) rfl

theorem load_objectValues (lies : a.store.Lies addr (.object keys values)) :
    a.loadField Addr addr .objectValues = .ok values :=
  lies.load_field .objectValues values (Kind.object.tag :: FixedWidth.encode keys) []
    (by simp [Cell.bytes, Cell.payload, Cell.kind]) (by simp [FixedWidth.length_encode]; rfl)

end Object

end ValueArena.Arena
