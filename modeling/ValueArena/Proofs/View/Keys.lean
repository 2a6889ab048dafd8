import ValueArena.Proofs.View.Object

/-!
Looking for a text among strings. Strings are told apart by their bytes, which their texts decide,
so the search finds the first place where the text stands.
-/
namespace ValueArena

theorem Utf8.encode_injective {v w : String} (same : encode v = encode w) : v = w := by
  rw [← decode_encode v, same, decode_encode]

/-- The contents of these entries are strings with these texts. -/
def Heap.Texts (heap : Heap) (es : List Entry) (keys : List String) : Prop :=
  (es.map fun e => heap e.content) = keys.map fun key => some (.plain (.string key))

namespace Heap

variable {heap heap' : Heap} {es : List Entry} {keys : List String}

theorem Texts.length (texts : heap.Texts es keys) : es.length = keys.length := by
  have same := congrArg List.length texts
  rw [List.length_map, List.length_map] at same
  exact same

theorem Texts.mem (texts : heap.Texts es keys) {e : Entry} (member : e ∈ es) :
    ∃ key, heap e.content = some (.plain (.string key)) := by
  have found : heap e.content ∈ es.map fun e => heap e.content := List.mem_map_of_mem member
  rw [texts] at found
  obtain ⟨key, _, same⟩ := List.mem_map.mp found
  exact ⟨key, same.symm⟩

theorem Texts.getElem? (texts : heap.Texts es keys) {i : Nat} {key : String}
    (at_i : keys[i]? = some key) :
    ∃ e, es[i]? = some e ∧ heap e.content = some (.plain (.string key)) := by
  have same := congrArg (·[i]?) texts
  simp only [List.getElem?_map, at_i, Option.map_some] at same
  exact Option.map_eq_some_iff.mp same

/-- Strings stay as they are. -/
theorem Texts.grows (texts : heap.Texts es keys) (grows : heap.Grows heap') :
    heap'.Texts es keys := by
  refine Eq.trans (List.map_congr_left ?_) texts
  intro e member
  obtain ⟨key, found⟩ := texts.mem member
  rw [found]
  exact grows.kept found rfl

theorem Texts.append (texts : heap.Texts es keys) {e : Entry} {key : String}
    (found : heap e.content = some (.plain (.string key))) :
    heap.Texts (es ++ [e]) (keys ++ [key]) := by
  rw [Texts, List.map_append, List.map_append, texts, List.map_singleton, List.map_singleton, found]

end Heap

namespace ListView

variable {a : Arena} {p : Picture} {v : ListView}

theorem hasText_of_string (shows : a.Shows p) {addr : Addr} {text : String}
    (found : p.heap addr = some (.plain (.string text))) (key : String) :
    hasText a key (p.heap.handleAt addr) = .ok (text == key) := by
  have stored := Addr.isNull_eq_false (shows.addr_ne_null found)
  have bytes := (shows.holds.lies found).load_bytes
  have same : (Utf8.encode text == Utf8.encode key) = (text == key) := by
    rw [Bool.eq_iff_iff, beq_iff_eq, beq_iff_eq]
    exact ⟨Utf8.encode_injective, congrArg Utf8.encode⟩
  rw [Heap.handleAt_of_some found]
  simp only [hasText, Handle.kind, Cell.kind, Content.kind, if_true, Arena.hasBytes,
    Handle.descriptor?, stored, Bool.false_eq_true, if_false]
  rw [bytes]
  exact congrArg Except.ok same

/-- A search for a text finds the first place where it stands. -/
theorem search_of_texts (shows : a.Shows p) {es : List Entry} {keys : List String}
    (texts : p.heap.Texts es keys) (key : String) (index : Nat) :
    search (hasText a key) index (es.map fun e => p.heap.handleAt e.content) =
      .ok ((keys.idxOf? key).map (· + index)) := by
  induction es generalizing keys index with
  | nil =>
    cases keys with
    | nil => rfl
    | cons => cases texts
  | cons e es ih =>
    cases keys with
    | nil => cases texts
    | cons text keys =>
      obtain ⟨found, rest⟩ := List.cons_eq_cons.mp texts
      have passes := hasText_of_string shows found key
      rw [List.map_cons, search, passes, List.idxOf?_cons]
      cases same : text == key with
      | true => simp [bind, Except.bind, pure, Except.pure]
      | false =>
        have later := ih rest (index + 1)
        simp only [bind, Except.bind, Bool.false_eq_true, if_false]
        rw [later, Option.map_map]
        congr 2
        funext i
        simp only [Function.comp_apply]
        omega

theorem indexOfText_of_texts (shows : a.Shows p) (list : p.heap.IsList v.header.addr)
    (current : v.Current a p) {keys : List String}
    (texts : p.heap.Texts (p.lists v.header.addr) keys) (key : String) :
    (indexOfText a key v).1 = .ok (keys.idxOf? key) := by
  have answer : indexOfText a key v = _ := read_apply (ensureFresh_current shows list current) _
  have found := search_of_texts shows texts key 0
  rw [answer]
  simp only [Picture.view]
  rw [found]
  simp

end ListView
end ValueArena
