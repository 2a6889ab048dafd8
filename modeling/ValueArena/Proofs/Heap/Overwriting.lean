import ValueArena.Arena.Writing
import ValueArena.Proofs.Heap.Creation
import ValueArena.Proofs.Heap.Typed
import ValueArena.Proofs.Memory.Lens

/-!
A number overwritten in place, as the memory and the typed reads tell it. No byte but those of the
number changes and nothing is given out; a handle reads whatever cell it names.
-/
namespace ValueArena

namespace Arena

/-- Every read of the handle answers as the cell tells. -/
structure AnswersAs (a : Arena) (h : Handle) (c : Cell) : Prop where
  decoded : a.decode h.addr = .ok h
  integer : a.readInteger h = c.integer
  long : a.readLong h = c.long
  double : a.readDouble h = c.double
  text : a.readString h = c.text
  bytes : ∀ bytes, a.hasBytes h bytes = .ok (c.hasBytes bytes)
  function : a.readFunction h = c.function
  nativeIndex : a.readNativeIndex h = c.nativeIndex

/-- Every read of the handle answers alike in both arenas. -/
structure AnswersAlike (a b : Arena) (h : Handle) : Prop where
  decoded : b.decode h.addr = a.decode h.addr
  integer : b.readInteger h = a.readInteger h
  long : b.readLong h = a.readLong h
  double : b.readDouble h = a.readDouble h
  text : b.readString h = a.readString h
  bytes : ∀ bytes, b.hasBytes h bytes = a.hasBytes h bytes
  function : b.readFunction h = a.readFunction h
  nativeIndex : b.readNativeIndex h = a.readNativeIndex h

/-- Nothing has been given out, and no write to a list has been counted. -/
structure SameMeasures (a b : Arena) : Prop where
  generation : b.generation = a.generation
  config : b.config = a.config
  reserved : b.store.reserved = a.store.reserved
  pages : b.store.pages.map (fun p => (p.capacity, p.used)) =
    a.store.pages.map fun p => (p.capacity, p.used)

variable {a b : Arena} {heap : Heap} {addr : Addr} {h : Handle} {c : Cell}

theorem answersAs_of_lies (lies : a.store.Lies addr c) :
    a.AnswersAs (.stored ⟨c.kind, c.size, addr⟩) c where
  decoded := decode_of_lies lies
  integer := readInteger_of_lies lies
  long := readLong_of_lies lies
  double := readDouble_of_lies lies
  text := readString_of_lies lies
  bytes := hasBytes_of_lies lies
  function := readFunction_of_lies lies
  nativeIndex := readNativeIndex_of_lies lies

theorem AnswersAs.alike (left : a.AnswersAs h c) (right : b.AnswersAs h c) :
    a.AnswersAlike b h where
  decoded := right.decoded.trans left.decoded.symm
  integer := right.integer.trans left.integer.symm
  long := right.long.trans left.long.symm
  double := right.double.trans left.double.symm
  text := right.text.trans left.text.symm
  bytes := fun bytes => (right.bytes bytes).trans (left.bytes bytes).symm
  function := right.function.trans left.function.symm
  nativeIndex := right.nativeIndex.trans left.nativeIndex.symm

/-- What a handle carries itself does not depend on any memory. -/
theorem answersAlike_immediate (a b : Arena) (v : Int64) : a.AnswersAlike b (.immediate v) :=
  ⟨rfl, rfl, rfl, rfl, rfl, fun _ => rfl, rfl, rfl⟩

theorem answersAlike_none (a b : Arena) : a.AnswersAlike b .none :=
  ⟨rfl, rfl, rfl, rfl, rfl, fun _ => rfl, rfl, rfl⟩

/-- Handles of what two heaps have alike read alike. -/
theorem answersAlike_of_holds {heap' : Heap} (holds : a.store.Holds heap)
    (holds' : b.store.Holds heap') (issued : heap.Issued h) (same : heap' h.addr = heap h.addr) :
    a.AnswersAlike b h := by
  rcases issued.shape with ⟨v, rfl⟩ | rfl | ⟨x, c, found, rfl⟩
  · exact answersAlike_immediate a b v
  · exact answersAlike_none a b
  · rw [Heap.handleAt_of_some found] at same ⊢
    have left := answersAs_of_lies (holds.lies found)
    exact left.alike (answersAs_of_lies (holds'.lies (same.trans found)))

theorem write_eq_ok [FixedWidth α] {v : α} (wrote : write addr v a = (.ok (), b)) :
    a.store.store addr v = .ok b.store ∧ b.generation = a.generation := by
  cases stored : a.store.store addr v with
  | error e => simp [write, onStore, Step.within, Step.update, stored] at wrote
  | ok s =>
    rw [write_apply stored] at wrote
    cases wrote
    exact ⟨rfl, rfl⟩

theorem sameMeasures_of_write [FixedWidth α] {v : α} (wrote : write addr v a = (.ok (), b)) :
    a.SameMeasures b := by
  obtain ⟨stored, generation⟩ := write_eq_ok wrote
  have alike := PageStore.alikeBut_write stored
  exact ⟨generation, alike.config, alike.reserved, alike.cursors⟩

/-- A byte that changes lies in the number that is written. -/
theorem spans_of_byte?_ne [FixedWidth α] {v : α} (bounded : a.store.Bounded)
    (wrote : write addr v a = (.ok (), b)) {i k : Nat}
    (changed : b.store.byte? i k ≠ a.store.byte? i k) : addr.Spans (FixedWidth.width α) i k := by
  obtain ⟨stored, _⟩ := write_eq_ok wrote
  rcases PageStore.write_cases bounded addr (FixedWidth.encode v) with
    ⟨e, refused⟩ | ⟨j, row, t, index, found, inside, written, _, rows⟩
  · exact nomatch stored.symm.trans refused
  · obtain rfl : b.store = t := Except.ok.inj (stored.symm.trans written)
    rw [← FixedWidth.length_encode v]
    exact Classical.not_not.mp fun elsewhere =>
      changed (PageStore.byte?_write index found inside rows elsewhere)

end Arena
end ValueArena
