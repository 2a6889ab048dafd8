import ValueArena.Proofs.Heap.Growth
import ValueArena.Proofs.Links.Entries

/-!
How lists and objects are linked in a heap. Every list header stands for a sequence of entries: its
items lie in the heap, each with its content and the address of the next. An item belongs to one
list and one place there, and a list to one object at most. Each write of an arena keeps this, and
does to the sequences what its change says.
-/
namespace ValueArena

/-- Whether a cell is an object with this list for its keys or its values. -/
def Cell.Owns : Cell → Addr → Prop
  | .object keys values, l => l = keys ∨ l = values
  | _, _ => False

/-- Only objects have lists of their own. -/
theorem Cell.Owns.object {c : Cell} {l : Addr} (owns : c.Owns l) :
    ∃ keys values, c = .object keys values := by
  cases c with
  | object keys values => exact ⟨keys, values, rfl⟩
  | plain | list | item => exact owns.elim

namespace Heap

structure Formed (heap : Heap) (lists : Addr → List Entry) : Prop where
  null : heap .null = none
  header : ∀ l first last count, heap l = some (.list first last count) →
    first = itemAt (lists l) 0 ∧ last = itemAt (lists l) ((lists l).length - 1) ∧
      count.toNat = (lists l).length
  unlisted : ∀ l, ¬ heap.IsList l → lists l = []
  item : ∀ (l : Addr) (i : Nat) (e : Entry), (lists l)[i]? = some e →
    heap e.item = some (.item e.content (itemAt (lists l) (i + 1)))
  owned : ∀ x content next, heap x = some (.item content next) →
    ∃ (l : Addr) (i : Nat), (lists l)[i]? = some ⟨x, content⟩
  apart : ∀ (l : Addr) (i : Nat) (e : Entry) (m : Addr) (j : Nat) (f : Entry),
    (lists l)[i]? = some e → (lists m)[j]? = some f → e.item = f.item → l = m ∧ i = j
  content : ∀ (l : Addr) (i : Nat) (e : Entry), (lists l)[i]? = some e →
    heap.IsContent e.content
  object : ∀ o keys values, heap o = some (.object keys values) →
    heap.IsList keys ∧ heap.IsList values ∧ keys ≠ values
  separate : ∀ o p c d l, heap o = some c → heap p = some d → c.Owns l → d.Owns l → o = p

/-- The links of the lists, whatever their items hold. -/
structure Chained (heap : Heap) (lists : Addr → List Entry) : Prop where
  header : ∀ l first last count, heap l = some (.list first last count) →
    first = itemAt (lists l) 0 ∧ last = itemAt (lists l) ((lists l).length - 1) ∧
      count.toNat = (lists l).length
  item : ∀ (l : Addr) (i : Nat) (e : Entry), (lists l)[i]? = some e →
    heap e.item = some (.item e.content (itemAt (lists l) (i + 1)))

theorem Formed.chained {heap : Heap} {lists : Addr → List Entry} (formed : heap.Formed lists) :
    heap.Chained lists := ⟨formed.header, formed.item⟩

theorem empty_formed : empty.Formed (fun _ => []) := by
  constructor <;> simp [empty, IsList]

variable {heap heap' : Heap} {lists : Addr → List Entry} {addr : Addr}

theorem Formed.list_isList (formed : heap.Formed lists) {l : Addr} {i : Nat} {e : Entry}
    (found : (lists l)[i]? = some e) : heap.IsList l := by
  by_cases list : heap.IsList l
  · exact list
  · rw [formed.unlisted l list] at found
    cases found

theorem Formed.object_grows (formed : heap.Formed lists) (grows : heap.Grows heap')
    {o keys values : Addr} (found : heap o = some (.object keys values)) :
    heap'.IsList keys ∧ heap'.IsList values ∧ keys ≠ values := by
  obtain ⟨keys_list, values_list, differ⟩ := formed.object o keys values found
  exact ⟨grows.isList keys_list, grows.isList values_list, differ⟩

/-- No list comes to have two owners where no object is new or another. -/
theorem Formed.separate_of_objects (formed : heap.Formed lists)
    (kept : ∀ o keys values, heap' o = some (.object keys values) →
      heap o = some (.object keys values)) {o p : Addr} {c d : Cell} {l : Addr}
    (at_o : heap' o = some c) (at_p : heap' p = some d) (owns_c : c.Owns l) (owns_d : d.Owns l) :
    o = p := by
  obtain ⟨k, v, rfl⟩ := owns_c.object
  obtain ⟨k', v', rfl⟩ := owns_d.object
  exact formed.separate o p _ _ l (kept o k v at_o) (kept p k' v' at_p) owns_c owns_d

/-- Cells without links may come and change. -/
theorem Formed.of_same_links (formed : heap.Formed lists) (null : heap' .null = none)
    (grows : heap.Grows heap')
    (same : ∀ x c, (∀ content, c ≠ .plain content) → (heap' x = some c ↔ heap x = some c)) :
    heap'.Formed lists := by
  have list : ∀ l, heap'.IsList l ↔ heap.IsList l := by
    intro l
    simp only [IsList, same l (.list _ _ _) (by simp)]
  constructor
  case null => exact null
  case header =>
    intro l first last count found
    exact formed.header l first last count ((same l _ (by simp)).mp found)
  case unlisted =>
    intro l none
    exact formed.unlisted l (mt (list l).mpr none)
  case item =>
    intro l i e found
    exact (same _ _ (by simp)).mpr (formed.item l i e found)
  case owned =>
    intro x content next found
    exact formed.owned x content next ((same x _ (by simp)).mp found)
  case apart => exact formed.apart
  case content =>
    intro l i e found
    exact grows.isContent (formed.content l i e found)
  case object =>
    intro o keys values found
    rw [list, list]
    exact formed.object o keys values ((same o _ (by simp)).mp found)
  case separate =>
    intro o p c d l
    exact formed.separate_of_objects fun o _ _ found => (same o _ (by simp)).mp found

theorem Formed.put_plain (formed : heap.Formed lists) (other : addr ≠ .null) {content : Content}
    (grows : heap.Grows (heap.put addr (.plain content)))
    (before : ∀ c, heap addr = some c → ∃ old, c = .plain old) :
    (heap.put addr (.plain content)).Formed lists := by
  apply formed.of_same_links (by rw [put_other other.symm, formed.null]) grows
  intro x c linked
  by_cases here : x = addr
  · subst here
    rw [put_self]
    constructor
    · intro eq
      exact absurd (Option.some.inj eq).symm (linked content)
    · intro found
      obtain ⟨old, rfl⟩ := before c found
      exact absurd rfl (linked old)
  · rw [put_other here]

/-- A new cell that is no item leaves the sequences as they are, if its header is that of an empty
list and its lists, if it is an object, are there and belong to no other. -/
theorem Formed.put_new (formed : heap.Formed lists) (other : addr ≠ .null)
    (fresh : heap addr = none) {c : Cell} (no_item : ∀ content next, c ≠ .item content next)
    (header : ∀ first last count, c = .list first last count →
      first = .null ∧ last = .null ∧ count = 0)
    (object : ∀ keys values, c = .object keys values →
      heap.IsList keys ∧ heap.IsList values ∧ keys ≠ values)
    (unowned : ∀ o d l, heap o = some d → d.Owns l → ¬ c.Owns l) :
    (heap.put addr c).Formed lists := by
  have grows := grows_put_fresh fresh c
  constructor
  case null => rw [put_other other.symm, formed.null]
  case header =>
    intro l first last count found
    rcases put_eq_some found with ⟨rfl, new⟩ | ⟨_, old⟩
    · obtain ⟨rfl, rfl, rfl⟩ := header first last count new.symm
      rw [formed.unlisted l (not_isList_of_fresh fresh)]
      exact ⟨rfl, rfl, rfl⟩
    · exact formed.header l first last count old
  case unlisted =>
    intro l none
    exact formed.unlisted l (mt grows.isList none)
  case item =>
    intro l i e found
    exact put_fresh fresh (formed.item l i e found) _
  case owned =>
    intro x content next found
    rcases put_eq_some found with ⟨_, new⟩ | ⟨_, old⟩
    · exact absurd new.symm (no_item content next)
    · exact formed.owned x content next old
  case apart => exact formed.apart
  case content =>
    intro l i e found
    exact grows.isContent (formed.content l i e found)
  case object =>
    intro o keys values found
    rcases put_eq_some found with ⟨_, new⟩ | ⟨_, old⟩
    · obtain ⟨keys_list, values_list, differ⟩ := object keys values new.symm
      exact ⟨grows.isList keys_list, grows.isList values_list, differ⟩
    · exact formed.object_grows grows old
  case separate =>
    intro o p d f l at_o at_p owns_d owns_f
    rcases put_eq_some at_o with ⟨rfl, rfl⟩ | ⟨_, old_o⟩
    · rcases put_eq_some at_p with ⟨same, _⟩ | ⟨_, old_p⟩
      · exact same.symm
      · exact absurd owns_d (unowned p f l old_p owns_f)
    · rcases put_eq_some at_p with ⟨_, rfl⟩ | ⟨_, old_p⟩
      · exact absurd owns_f (unowned o d l old_o owns_d)
      · exact formed.separate o p d f l old_o old_p owns_d owns_f

/-- A new list is empty and belongs to no object. -/
theorem Formed.put_list (formed : heap.Formed lists) (other : addr ≠ .null)
    (fresh : heap addr = none) : (heap.put addr (.list .null .null 0)).Formed lists := by
  apply formed.put_new other fresh
  case no_item => exact nofun
  case header =>
    intro first last count same
    cases same
    exact ⟨rfl, rfl, rfl⟩
  case object => exact nofun
  case unowned => exact fun _ _ _ _ _ owns => owns

/-- A list owns no other, so whatever owns one beside a new list was there before. -/
theorem owner_before {x first last : Addr} {count : UInt32} {o l : Addr} {c : Cell}
    (found : heap.put x (.list first last count) o = some c) (owns : c.Owns l) :
    heap o = some c := by
  rcases put_eq_some found with ⟨_, rfl⟩ | ⟨_, before⟩
  · exact owns.elim
  · exact before

/-- A new object takes two lists that no other object has. -/
theorem Formed.put_object (formed : heap.Formed lists) (other : addr ≠ .null)
    (fresh : heap addr = none) {keys values : Addr} (keys_list : heap.IsList keys)
    (values_list : heap.IsList values) (differ : keys ≠ values)
    (free : ∀ o c, heap o = some c → ¬ c.Owns keys ∧ ¬ c.Owns values) :
    (heap.put addr (.object keys values)).Formed lists := by
  apply formed.put_new other fresh
  case no_item => exact nofun
  case header => exact nofun
  case object =>
    intro k v same
    cases same
    exact ⟨keys_list, values_list, differ⟩
  case unowned =>
    rintro o c l found owns (rfl | rfl)
    · exact (free o c found).1 owns
    · exact (free o c found).2 owns

/-- `heap'` is `heap` with a new item linked after the last one of a list. -/
structure Appends (heap : Heap) (lists : Addr → List Entry) (l : Addr) (e : Entry) (heap' : Heap) :
    Prop where
  fresh : heap e.item = none
  list : heap.IsList l
  new : heap' e.item = some (.item e.content .null)
  header : ∃ count, heap' l = some (.list (itemAt (lists l ++ [e]) 0) e.item count) ∧
    count.toNat = (lists l).length + 1
  linked : ∀ f, (lists l)[(lists l).length - 1]? = some f →
    heap' f.item = some (.item f.content e.item)
  others : ∀ x, x ≠ e.item → x ≠ l →
    (∀ f, (lists l)[(lists l).length - 1]? = some f → x ≠ f.item) → heap' x = heap x

variable {l : Addr} {e : Entry}

theorem Appends.eq_of_plain_or_object (appends : heap.Appends lists l e heap') {x : Addr} {c : Cell}
    (found : heap' x = some c) (item : ∀ content next, c ≠ .item content next) (other : x ≠ l) :
    heap x = some c := by
  rw [← appends.others x (ne_of_cells found appends.new (item _ _)) other, found]
  intro f last
  exact ne_of_cells found (appends.linked f last) (item _ _)

/-- What is no list is not the header of this one. -/
theorem Appends.ne_list (appends : heap.Appends lists l e heap') {x : Addr} {c : Cell}
    (found : heap' x = some c) (differ : ∀ first last count, c ≠ .list first last count) :
    x ≠ l := by
  obtain ⟨_, header, _⟩ := appends.header
  exact ne_of_cells found header (differ _ _ _)

/-- The objects are those that were there. -/
theorem Appends.object_before (appends : heap.Appends lists l e heap') {o keys values : Addr}
    (found : heap' o = some (.object keys values)) : heap o = some (.object keys values) :=
  appends.eq_of_plain_or_object found (by simp) (appends.ne_list found (by simp))

theorem Appends.grows (appends : heap.Appends lists l e heap') (formed : heap.Formed lists) :
    heap.Grows heap' := by
  intro x c found
  have not_new := ne_of_fresh found appends.fresh
  by_cases header : x = l
  · subst header
    obtain ⟨_, _, _, before⟩ := appends.list
    obtain ⟨_, after, _⟩ := appends.header
    rw [before] at found
    cases found
    exact ⟨_, after, Cell.becomes_of_rewritten rfl rfl⟩
  · by_cases last : ∃ f, (lists l)[(lists l).length - 1]? = some f ∧ x = f.item
    · obtain ⟨f, at_last, rfl⟩ := last
      rw [formed.item l _ f at_last] at found
      cases found
      exact ⟨_, appends.linked f at_last, Cell.becomes_of_rewritten rfl rfl⟩
    · refine ⟨c, ?_, .refl c⟩
      rw [appends.others x not_new header (fun f at_last eq => last ⟨f, at_last, eq⟩), found]

theorem Appends.plain_kept (appends : heap.Appends lists l e heap') (formed : heap.Formed lists)
    {x : Addr} {content : Content} (found : heap x = some (.plain content)) :
    heap' x = some (.plain content) := by
  obtain ⟨_, _, _, list⟩ := appends.list
  rw [← found]
  apply appends.others
  · exact ne_of_fresh found appends.fresh
  · exact ne_of_cells found list nofun
  · intro f last
    exact ne_of_cells found (formed.item l _ f last) nofun

/-- An item that was there keeps its content, and its link unless it was the last of the list. -/
theorem Appends.item_kept (appends : heap.Appends lists l e heap') (formed : heap.Formed lists)
    {m : Addr} {i : Nat} {f : Entry} (found : (lists m)[i]? = some f)
    (inner : m = l → i + 1 < (lists l).length) : heap' f.item = heap f.item := by
  have at_item := formed.item m i f found
  obtain ⟨_, _, _, header⟩ := appends.list
  apply appends.others
  · exact ne_of_fresh at_item appends.fresh
  · exact ne_of_cells at_item header nofun
  · intro g last eq
    obtain ⟨same, index⟩ := formed.apart m i f l _ g found last eq
    have := inner same
    omega

theorem Appends.header_after (appends : heap.Appends lists l e heap') (formed : heap.Formed lists)
    {m first last : Addr} {count : UInt32} (found : heap' m = some (.list first last count)) :
    let es := Change.on m (lists m) (.append l e)
    first = itemAt es 0 ∧ last = itemAt es (es.length - 1) ∧ count.toNat = es.length := by
  by_cases same : m = l
  · subst same
    obtain ⟨count', header, length⟩ := appends.header
    rw [header] at found
    cases found
    simp only [Change.on, if_true, List.length_append, List.length_singleton, Nat.add_sub_cancel]
    exact ⟨trivial, (itemAt_append_length _ _).symm, length⟩
  · simp only [Change.on, if_neg same]
    exact formed.header m first last count (appends.eq_of_plain_or_object found (by simp) same)

theorem Appends.item_after (appends : heap.Appends lists l e heap') (formed : heap.Formed lists)
    {m : Addr} {i : Nat} {f : Entry}
    (found : (Change.on m (lists m) (.append l e))[i]? = some f) :
    heap' f.item =
      some (.item f.content (itemAt (Change.on m (lists m) (.append l e)) (i + 1))) := by
  rcases getElem?_on_append found with old | ⟨rfl, rfl, rfl⟩
  · by_cases same : m = l
    · subst same
      have inside := (List.getElem?_eq_some_iff.mp old).1
      simp only [Change.on, if_true]
      -- Only the last item of the list has its link rewritten.
      by_cases last : i = (lists m).length - 1
      · have length : i + 1 = (lists m).length := by omega
        rw [length, itemAt_append_length]
        exact appends.linked f (last ▸ old)
      · rw [appends.item_kept formed old (fun _ => by omega), formed.item m i f old,
          itemAt_append_of_lt (by omega)]
    · simp only [Change.on, if_neg same]
      rw [appends.item_kept formed old (fun eq => absurd eq same), formed.item m i f old]
  · simp only [Change.on, if_true]
    rw [appends.new, itemAt_of_length_le (by simp)]

theorem Appends.owned_after (appends : heap.Appends lists l e heap') (formed : heap.Formed lists)
    {x content next : Addr} (found : heap' x = some (.item content next)) :
    ∃ (m : Addr) (i : Nat), (Change.on m (lists m) (.append l e))[i]? = some ⟨x, content⟩ := by
  by_cases new : x = e.item
  · subst new
    have same := found.symm.trans appends.new
    cases same
    exact ⟨l, (lists l).length, by simp [Change.on]⟩
  · by_cases last : ∃ f, (lists l)[(lists l).length - 1]? = some f ∧ x = f.item
    · obtain ⟨f, at_last, rfl⟩ := last
      have same := found.symm.trans (appends.linked f at_last)
      cases same
      exact ⟨l, _, getElem?_on_append_of_some at_last l l e⟩
    · rw [appends.others x new (appends.ne_list found (by simp))
        (fun f at_last eq => last ⟨f, at_last, eq⟩)] at found
      obtain ⟨m, i, old⟩ := formed.owned x content next found
      exact ⟨m, i, getElem?_on_append_of_some old l m e⟩

theorem Appends.apart_after (appends : heap.Appends lists l e heap') (formed : heap.Formed lists)
    {m n : Addr} {i j : Nat} {f g : Entry}
    (found_f : (Change.on m (lists m) (.append l e))[i]? = some f)
    (found_g : (Change.on n (lists n) (.append l e))[j]? = some g) (same : f.item = g.item) :
    m = n ∧ i = j := by
  have new_item : ∀ (m : Addr) (i : Nat) (f : Entry), (lists m)[i]? = some f → f.item ≠ e.item :=
    fun m i f found => ne_of_fresh (formed.item m i f found) appends.fresh
  rcases getElem?_on_append found_f with old_f | ⟨rfl, rfl, rfl⟩
  · rcases getElem?_on_append found_g with old_g | ⟨rfl, rfl, rfl⟩
    · exact formed.apart m i f n j g old_f old_g same
    · exact absurd same (new_item m i f old_f)
  · rcases getElem?_on_append found_g with old_g | ⟨rfl, rfl, rfl⟩
    · exact absurd same.symm (new_item n j g old_g)
    · exact ⟨rfl, rfl⟩

theorem Formed.append (formed : heap.Formed lists) (appends : heap.Appends lists l e heap')
    (null : heap' .null = none)
    (held : heap'.IsContent e.content) :
    heap'.Formed fun m => (Change.append l e).on m (lists m) := by
  have grows := appends.grows formed
  constructor
  case null => exact null
  case header => exact fun m first last count found => appends.header_after formed found
  case unlisted =>
    intro m none
    have other : m ≠ l := by
      intro same
      subst same
      exact none (grows.isList appends.list)
    simp only [Change.on, if_neg other]
    exact formed.unlisted m (mt grows.isList none)
  case item => exact fun m i f found => appends.item_after formed found
  case owned => exact fun x content next found => appends.owned_after formed found
  case apart =>
    intro m i f n j g found_f found_g same
    exact appends.apart_after formed found_f found_g same
  case content =>
    intro m i f found
    rcases getElem?_on_append found with old | ⟨_, _, rfl⟩
    · exact grows.isContent (formed.content m i f old)
    · exact held
  case object =>
    intro o keys values found
    exact formed.object_grows grows (appends.object_before found)
  case separate =>
    intro o p c d m
    exact formed.separate_of_objects fun _ _ _ found => appends.object_before found

/-- The links stay whatever an item is made to hold. -/
theorem Chained.replace (chained : heap.Chained lists) {item old next : Addr}
    (found : heap item = some (.item old next)) (content : Addr) :
    (heap.put item (.item content next)).Chained fun m =>
      (Change.replace item content).on m (lists m) := by
  constructor
  case header =>
    intro l first last count at_l
    simp only [Change.on, itemAt_refill, List.length_map]
    rcases put_eq_some at_l with ⟨_, new⟩ | ⟨_, before⟩
    · cases new
    · exact chained.header l first last count before
  case item =>
    intro l i f at_i
    obtain ⟨e, old_i, rfl⟩ := getElem?_refill.mp at_i
    simp only [Change.on, itemAt_refill, Entry.refill_item]
    have linked := chained.item l i e old_i
    by_cases same : e.item = item
    · rw [same, found] at linked
      cases linked
      rw [same, put_self, Entry.refill, if_pos same]
    · rw [put_other same, linked, Entry.refill, if_neg same]

/-- An item that takes another content takes it in the list that it belongs to. -/
theorem Formed.replace (formed : heap.Formed lists) {item old next content : Addr}
    (found : heap item = some (.item old next)) (null : heap' .null = none)
    (grows : heap.Grows heap') (put : heap' = heap.put item (.item content next))
    (held : heap'.IsContent content) :
    heap'.Formed fun m => (Change.replace item content).on m (lists m) := by
  have links := formed.chained.replace found content
  rw [← put] at links
  have before : ∀ o keys values, heap' o = some (.object keys values) →
      heap o = some (.object keys values) := by
    intro o keys values at_o
    rw [put] at at_o
    rcases put_eq_some at_o with ⟨_, new⟩ | ⟨_, old⟩
    · cases new
    · exact old
  constructor
  case null => exact null
  case header => exact links.header
  case unlisted =>
    intro l none
    simp only [Change.on, formed.unlisted l (mt grows.isList none), List.map_nil]
  case item => exact links.item
  case owned =>
    intro x u v at_x
    rw [put] at at_x
    rcases put_eq_some at_x with ⟨rfl, new⟩ | ⟨other, at_x⟩
    · cases new
      obtain ⟨l, i, owner⟩ := formed.owned x old next found
      exact ⟨l, i, getElem?_refill.mpr ⟨_, owner, if_pos rfl⟩⟩
    · obtain ⟨l, i, owner⟩ := formed.owned x u v at_x
      exact ⟨l, i, getElem?_refill.mpr ⟨_, owner, if_neg other⟩⟩
  case apart =>
    intro l i e m j f at_i at_j same
    obtain ⟨e, old_i, rfl⟩ := getElem?_refill.mp at_i
    obtain ⟨f, old_j, rfl⟩ := getElem?_refill.mp at_j
    rw [Entry.refill_item, Entry.refill_item] at same
    exact formed.apart l i e m j f old_i old_j same
  case content =>
    intro l i e at_i
    obtain ⟨e, old_i, rfl⟩ := getElem?_refill.mp at_i
    unfold Entry.refill
    split
    · exact held
    · exact grows.isContent (formed.content l i e old_i)
  case object =>
    intro o keys values at_o
    exact formed.object_grows grows (before o keys values at_o)
  case separate =>
    intro o p c d l
    exact formed.separate_of_objects before

end Heap
end ValueArena
