import Mathlib.Data.List.Forall2
import ValueArena.Collection.ListView
import ValueArena.Proofs.Mirror.Operations

/-!
Views of lists in arenas that mirror each other. Two views of one list remember handles of the same
values and date them alike, so that both are up to date or neither is, and both walk the same way.
-/
namespace ValueArena

namespace Mirror

/-- Two views of one list. -/
structure SameView (M : Mirror) (v w : ListView) : Prop where
  list : M.To .list v.header.addr w.header.addr
  handle : M.Same v.handle w.handle
  items : List.Forall₂ M.Same v.items.toList w.items.toList
  values : List.Forall₂ M.Same v.values.toList w.values.toList
  built : v.builtAt = w.builtAt

/-- Views of some kind beside arenas that stay as they are, so that the mirror stays. What reads
through them does not lack memory. -/
def beside (M : Mirror) (S : Mirror → τ → τ → Prop) : Pairing MemoryError τ where
  lacks _ := False
  states N v w := N = M ∧ S M v w

/-- Views of some kind, each with its arena. -/
def along (S : Mirror → τ → τ → Prop) : Pairing MemoryError (τ × Arena) where
  lacks := MemoryError.lacksMemory
  states N s t := N.Mirrors s.2 t.2 ∧ S N s.1 t.1

variable {M N : Mirror} {a b : Arena} {g h g' h' : Handle} {x y : Addr} {v w : ListView}
  {R : Mirror → α → β → Prop}

theorem SameView.leads (same : M.SameView v w) (leads : M.Leads N) (sound : M.Sound) :
    N.SameView v w := by
  have handles : ∀ g h, M.Same g h → N.Same g h := fun _ _ same => same.leads leads sound
  exact ⟨same.list.leads leads, same.handle.leads leads sound, same.items.imp handles,
    same.values.imp handles, same.built⟩

theorem SameView.beside (same : M.SameView v w) : (M.beside SameView).states M v w :=
  ⟨rfl, same⟩

/-- What is done to the arenas leaves the views as they are. -/
theorem Agree.onSecond {S : Mirror → τ → τ → Prop} {u u' : τ} {x : ArenaStep α} {y : ArenaStep β}
    (agree : Agree arenas M x y R a b) (stays : ∀ N, M.Leads N → S N u u') :
    Agree (along S) M (.onSecond x) (.onSecond y) R (u, a) (u', b) :=
  agree.lift (fun _ lacks => lacks) rfl rfl fun N leads mirrors => ⟨mirrors, stays N leads⟩

theorem sameView_unread {d e : Descriptor} (list : M.To .list d.addr e.addr)
    (handle : M.Same (.stored d) (.stored e)) :
    M.SameView (ListView.unread d) (ListView.unread e) := ⟨list, handle, .nil, .nil, rfl⟩

/-- At one index there is a handle on both sides or on neither. -/
theorem lookup_same {gs hs : Array Handle} (same : List.Forall₂ M.Same gs.toList hs.toList)
    (index : Nat) :
    Outcome M.Same
      (match gs[index]? with
        | some h => .ok h
        | none => .error (MemoryError.outOfBounds index gs.size))
      (match hs[index]? with
        | some h => .ok h
        | none => .error (.outOfBounds index hs.size)) := by
  have sizes : gs.size = hs.size := same.length_eq
  by_cases inside : index < gs.size
  · rw [Array.getElem?_eq_getElem inside, Array.getElem?_eq_getElem (by omega)]
    exact .ok (same.get inside (by rw [← same.length_eq]; exact inside))
  · rw [Array.getElem?_eq_none (by omega), Array.getElem?_eq_none (by omega), sizes]
    exact .error _

/-- Handles that pass alike are found at the same index. -/
theorem search_same {p q : Handle → Except MemoryError Bool}
    (alike : ∀ g h, M.Same g h → p g = q h) {gs hs : List Handle}
    (same : List.Forall₂ M.Same gs hs) (index : Nat) :
    ListView.search p index gs = ListView.search q index hs := by
  induction same generalizing index with
  | nil => rfl
  | cons here _ ih =>
    rw [ListView.search, ListView.search, alike _ _ here]
    simp only [ih]

theorem agree_pushItem (same : M.SameView v w) (item : M.Same g h) :
    Agree (M.beside SameView) M (ListView.addItem g) (ListView.addItem h)
      (fun _ _ _ => True) v w := by
  refine agree_modify ⟨rfl, same.list, same.handle, ?_, same.values, same.built⟩
  simp only [Array.toList_push]
  exact List.rel_append same.items (.cons item .nil)

theorem agree_pushValue (same : M.SameView v w) (value : M.Same g h) :
    Agree (M.beside SameView) M (ListView.addValue g) (ListView.addValue h)
      (fun _ _ _ => True) v w := by
  refine agree_modify ⟨rfl, same.list, same.handle, same.items, ?_, same.built⟩
  simp only [Array.toList_push]
  exact List.rel_append same.values (.cons value .nil)

section

variable (mirrors : M.Mirrors a b)
include mirrors

theorem hasText_same (same : M.Same g h) (text : String) :
    ListView.hasText a text g = ListView.hasText b text h := by
  simp only [ListView.hasText, same.kind mirrors.sound, hasBytes_same mirrors same,
    readString_same mirrors same]

theorem hasNumber_same (same : M.Same g h) (number : Binary64) :
    ListView.hasNumber a number g = ListView.hasNumber b number h := by
  simp only [ListView.hasNumber, same.kind mirrors.sound, readDouble_same mirrors same]

theorem addText_same (same : M.Same g h) (text : String) :
    ListView.addText a text g = ListView.addText b text h := by
  have empty : g.isNone = h.isNone := congrArg (· == Kind.none) (same.kind mirrors.sound)
  rw [ListView.addText, ListView.addText, empty, readString_same mirrors same]

theorem concat_same {gs hs : List Handle} (same : List.Forall₂ M.Same gs hs) :
    ListView.concat a gs = ListView.concat b hs := by
  unfold ListView.concat
  generalize "" = text
  induction same generalizing text with
  | nil => rfl
  | cons here _ ih =>
    rw [List.foldlM_cons, List.foldlM_cons, addText_same mirrors here]
    simp only [ih]

theorem isFresh_same (same : M.SameView v w) : v.isFresh a = w.isFresh b := by
  rw [ListView.isFresh, ListView.isFresh, same.built, mirrors.generation]

theorem agree_visit (same : M.SameView v w) (item : M.To .listItem x y) :
    Agree (M.beside SameView) M (ListView.visit a x) (ListView.visit b y) Next v w := by
  refine agree_view_bind same.beside (decode_same mirrors (.inr item.1)) ?_
  intro g h handle
  refine agree_view_bind same.beside (R := fun _ _ => True)
    ((require_same mirrors handle .listItem).map fun _ _ _ => trivial) ?_
  intro _ _ _
  refine agree_view_bind same.beside (itemContent_same mirrors item) ?_
  intro content content' link
  refine (agree_pushItem same handle).bind ?_
  rintro N v w _ _ leads ⟨rfl, same⟩ _
  refine agree_view_bind same.beside (decode_same mirrors link) ?_
  intro value value' here
  refine (agree_pushValue same here).bind ?_
  rintro N v w _ _ leads ⟨rfl, same⟩ _
  exact agree_view same.beside (itemNext_same mirrors item)

/-- Both walks come to the same end. -/
theorem agree_walk (count left : Nat) (same : M.SameView v w) (next : M.Next x y) :
    Agree (M.beside SameView) M (ListView.walk a count left x) (ListView.walk b count left y)
      (fun _ _ _ => True) v w := by
  induction left generalizing v w x y with
  | zero => exact agree_pure same.beside trivial
  | succ left ih =>
    -- Links end on both sides at once, and otherwise lead to an item on each.
    rcases next with ⟨rfl, rfl⟩ | item
    · exact agree_fail same.beside (.outOfBounds (count - (left + 1)) count)
    · obtain ⟨some_x, some_y⟩ := mirrors.sound.ne_null item.1
      simp only [ListView.walk, Addr.isNull_eq_false some_x, Addr.isNull_eq_false some_y]
      refine (agree_visit mirrors same item).bind ?_
      rintro N v w _ _ leads ⟨rfl, same⟩ next
      exact ih same next

theorem agree_refresh (same : M.SameView v w) :
    Agree (M.beside SameView) M (ListView.refresh a) (ListView.refresh b)
      (fun _ _ _ => True) v w := by
  have unread := sameView_unread same.list same.handle
  refine (agree_modify unread.beside).bind ?_
  rintro N v w _ _ leads ⟨rfl, same⟩ _
  refine agree_view_bind same.beside (outcome_of_eq (listCount_same mirrors same.list)) ?_
  rintro count _ rfl
  refine agree_view_bind same.beside (listFirst_same mirrors same.list) ?_
  intro first first' next
  refine (agree_walk mirrors _ _ same next).bind ?_
  rintro N v w _ _ leads ⟨rfl, same⟩ _
  exact agree_modify
    ⟨rfl, same.list, same.handle, same.items, same.values, congrArg some mirrors.generation⟩

/-- Both views are walked again, or neither is. -/
theorem agree_ensureFresh (same : M.SameView v w) :
    Agree (M.beside SameView) M (ListView.ensureFresh a) (ListView.ensureFresh b)
      (fun _ _ _ => True) v w := by
  refine agree_view_bind same.beside (outcome_of_eq (congrArg _ (isFresh_same mirrors same))) ?_
  rintro fresh _ rfl
  split
  · exact agree_pure same.beside trivial
  · exact agree_refresh mirrors same

/-- A read of what a view remembers, brought up to date. -/
theorem agree_read (same : M.SameView v w) {p q : ListView → Except MemoryError α}
    {R : Mirror → α → α → Prop} (outcome : ∀ {v w}, M.SameView v w → Outcome (R M) (p v) (q w)) :
    Agree (M.beside SameView) M (do ListView.ensureFresh a; .view p)
      (do ListView.ensureFresh b; .view q) R v w := by
  refine (agree_ensureFresh mirrors same).bind ?_
  rintro N v w _ _ leads ⟨rfl, same⟩ _
  exact agree_view same.beside (outcome same)

theorem agree_item (same : M.SameView v w) (index : Nat) :
    Agree (M.beside SameView) M (ListView.item a index) (ListView.item b index) Same v w :=
  agree_read mirrors same fun same => lookup_same same.items index

theorem agree_get (same : M.SameView v w) (index : Nat) :
    Agree (M.beside SameView) M (ListView.get a index) (ListView.get b index) Same v w :=
  agree_read mirrors same fun same => lookup_same same.values index

theorem agree_allItems (same : M.SameView v w) :
    Agree (M.beside SameView) M (ListView.allItems a) (ListView.allItems b)
      (fun N gs hs => List.Forall₂ N.Same gs.toList hs.toList) v w :=
  agree_read mirrors same fun same => .ok same.items

theorem agree_allValues (same : M.SameView v w) :
    Agree (M.beside SameView) M (ListView.allValues a) (ListView.allValues b)
      (fun N gs hs => List.Forall₂ N.Same gs.toList hs.toList) v w :=
  agree_read mirrors same fun same => .ok same.values

theorem agree_indexOfText (same : M.SameView v w) (text : String) :
    Agree (M.beside SameView) M (ListView.indexOfText a text) (ListView.indexOfText b text)
      (fun _ i j => i = j) v w :=
  agree_read mirrors same fun same =>
    outcome_of_eq (search_same (fun _ _ same => hasText_same mirrors same text) same.values 0)

theorem agree_indexOfNumber (same : M.SameView v w) (number : Binary64) :
    Agree (M.beside SameView) M (ListView.indexOfNumber a number) (ListView.indexOfNumber b number)
      (fun _ i j => i = j) v w :=
  agree_read mirrors same fun same =>
    outcome_of_eq (search_same (fun _ _ same => hasNumber_same mirrors same number) same.values 0)

theorem agree_toText (same : M.SameView v w) :
    Agree (M.beside SameView) M (ListView.toText a) (ListView.toText b)
      (fun _ s t => s = t) v w := by
  refine agree_read mirrors same fun {v w} same => outcome_of_eq ?_
  have empty : v.values.isEmpty = w.values.isEmpty := by
    have sizes : v.values.size = w.values.size := same.values.length_eq
    rw [Array.isEmpty, Array.isEmpty, sizes]
  rw [empty, concat_same mirrors same.values]

/-- Handles that name a list on both sides open to views of it. -/
theorem ofHandle_same (same : M.Same g h) :
    Outcome M.SameView (ListView.ofHandle a g) (ListView.ofHandle b h) := by
  refine (require_same mirrors same .list).bind ?_
  rintro d e ⟨list, rfl, rfl⟩
  have agree := agree_refresh mirrors (sameView_unread list same)
  unfold Agree at agree
  generalize ListView.refresh a (ListView.unread d) = left at agree
  generalize ListView.refresh b (ListView.unread e) = right at agree
  obtain ⟨result, v⟩ := left
  obtain ⟨result', w⟩ := right
  rcases agree with ⟨_, lacking, _⟩ | ⟨_, lacking, _⟩ | ⟨N, _, ⟨rfl, views⟩, outcome⟩
  · exact lacking.elim
  · exact lacking.elim
  · cases outcome with
    | ok => exact .ok views
    | error e => exact .error e

theorem agree_listCreate :
    Agree arenas M ListView.create ListView.create SameView a b := by
  refine (agree_createList mirrors).bind ?_
  intro N a b g h _ (mirrors : N.Mirrors a b) ⟨same, _⟩
  exact agree_view mirrors (ofHandle_same mirrors same)

/-- Reads of a view leave the arenas as they are. -/
theorem agree_reading (same : M.SameView v w) {x : Arena → Step MemoryError ListView α}
    {y : Arena → Step MemoryError ListView β}
    (agree : Agree (M.beside SameView) M (x a) (y b) R v w) :
    Agree (along SameView) M (ListView.reading x) (ListView.reading y) R (v, a) (w, b) := by
  refine agree.lift nofun rfl rfl ?_
  rintro N _ ⟨rfl, same⟩
  exact ⟨mirrors, same⟩

theorem agree_append (same : M.SameView v w) (content : M.Same g h) :
    Agree (along SameView) M (ListView.append g) (ListView.append h) Same (v, a) (w, b) := by
  have here : (along SameView).states M (v, a) (w, b) := ⟨mirrors, same⟩
  refine agree_view_bind here (outcome_of_eq (congrArg _ (isFresh_same mirrors same))) ?_
  rintro fresh _ rfl
  refine agree_view_bind here (R := fun d e => M.To .list d.addr e.addr) (.ok same.list) ?_
  intro d e list
  refine ((agree_appendItem mirrors list content).onSecond
    fun _ leads => same.leads leads mirrors.sound).bind ?_
  rintro N ⟨v, a⟩ ⟨w, b⟩ ⟨item, value⟩ ⟨item', value'⟩ leads ⟨mirrors, same⟩ ⟨at_item, at_value⟩
  dsimp only at mirrors same
  have extended : Agree (N.beside SameView) N
      (do ListView.addItem item
          ListView.addValue value
          .modify fun v => { v with builtAt := some a.generation })
      (do ListView.addItem item'
          ListView.addValue value'
          .modify fun v => { v with builtAt := some b.generation }) (fun _ _ _ => True) v w := by
    refine (agree_pushItem same at_item).bind ?_
    rintro _ v w _ _ _ ⟨rfl, same⟩ _
    refine (agree_pushValue same at_value).bind ?_
    rintro _ v w _ _ _ ⟨rfl, same⟩ _
    exact agree_modify ⟨rfl, same.list, same.handle, same.items, same.values,
      congrArg some mirrors.generation⟩
  have kept : ∀ N' s' t', N.Leads N' → (along SameView).states N' s' t' →
      Agree (along SameView) N' (pure item) (pure item') Same s' t' := fun N' s' t' leads states =>
    agree_pure states (at_item.leads leads mirrors.sound)
  -- Both views were up to date and are extended, or both are walked again.
  cases fresh with
  | true =>
    exact (agree_reading mirrors same extended).bind
      fun N' s' t' _ _ leads states _ => kept N' s' t' leads states
  | false =>
    exact (agree_reading mirrors same (agree_refresh mirrors same)).bind
      fun N' s' t' _ _ leads states _ => kept N' s' t' leads states

theorem agree_setContent (same : M.SameView v w) (item : M.Same g h) (content : M.Same g' h') :
    Agree (along SameView) M (ListView.setContent g g') (ListView.setContent h h')
      (fun _ _ _ => True) (v, a) (w, b) := by
  refine ((agree_setItemContent mirrors item content).onSecond
    fun _ leads => same.leads leads mirrors.sound).bind ?_
  rintro N ⟨v, a⟩ ⟨w, b⟩ _ _ leads ⟨mirrors, same⟩ _
  exact agree_reading mirrors same (agree_refresh mirrors same)

theorem agree_setContentAt (same : M.SameView v w) (index : Nat) (content : M.Same g h) :
    Agree (along SameView) M (ListView.setContentAt index g) (ListView.setContentAt index h)
      (fun _ _ _ => True) (v, a) (w, b) := by
  refine (agree_reading mirrors same (agree_item mirrors same index)).bind ?_
  rintro N ⟨v', a'⟩ ⟨w', b'⟩ item item' leads ⟨mirrors', same'⟩ at_item
  exact agree_setContent mirrors' same' at_item (content.leads leads mirrors.sound)

end

end Mirror
end ValueArena
