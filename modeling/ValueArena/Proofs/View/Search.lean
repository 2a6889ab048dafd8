import ValueArena.Proofs.Heap.Typed
import ValueArena.Proofs.View.Keys
import ValueArena.Proofs.View.Reads

/-!
Searching a list. A search looks at the contents in order and stops at the first that passes. What
an arena issued always tells whether it passes, so that a search of it never fails.
-/
namespace ValueArena

/-- The result is the least place of a handle that passes, or none if no handle does. -/
structure FindsFirst (result : Except MemoryError (Option Nat)) (passes : Handle → Prop)
    (hs : List Handle) : Prop where
  found : ∀ i, result = .ok (some i) ↔
    (∃ h, hs[i]? = some h ∧ passes h) ∧ ∀ j h, j < i → hs[j]? = some h → ¬ passes h
  missing : result = .ok none ↔ ∀ h ∈ hs, ¬ passes h
  answers : ∃ place, result = .ok place

namespace ListView

/-- Searches through the view find the first content that reads as what is asked for. -/
structure Searches (v : ListView) (a : Arena) (contents : List Handle) : Prop where
  text : ∀ text, FindsFirst (indexOfText a text v).1 (fun h => a.readString h = .ok text) contents
  number : ∀ number, FindsFirst (indexOfNumber a number v).1
    (fun h => h.kind.isNumeric = true ∧ ∃ y, a.readDouble h = .ok y ∧ y.equals number = true)
    contents

end ListView

/-- The test of a handle does not fail, and says whether the handle passes. -/
def Decides (test : Handle → Except MemoryError Bool) (passes : Handle → Prop) (h : Handle) :
    Prop :=
  ∃ b, test h = .ok b ∧ (b = true ↔ passes h)

section Search

variable {test : Handle → Except MemoryError Bool} {passes : Handle → Prop} {hs : List Handle}

theorem decides_of_fails {h : Handle} (tested : test h = .ok false) (fails : ¬ passes h) :
    Decides test passes h :=
  ⟨false, tested, fun given => absurd given Bool.false_ne_true, fun given => absurd given fails⟩

/-- A search whose test never fails is the library's, but that it counts from `start`. -/
theorem search_eq_findIdx? {b : Handle → Bool} (answers : ∀ h ∈ hs, test h = .ok (b h))
    (start : Nat) : ListView.search test start hs = .ok ((hs.findIdx? b).map (· + start)) := by
  -- The search counts up where the library's adds one on the way back, so the start is general.
  induction hs generalizing start with
  | nil => rfl
  | cons h hs ih =>
    have later := ih (fun g member => answers g (.tail h member)) (start + 1)
    rw [ListView.search, answers h (.head hs), List.findIdx?_cons]
    cases b h with
    | true => simp [bind, Except.bind, pure, Except.pure]
    | false =>
      simp only [bind, Except.bind, Bool.false_eq_true, if_false, later, Option.map_map]
      congr 2
      funext i
      exact Nat.add_right_comm i start 1

theorem findsFirst_search (decides : ∀ h ∈ hs, Decides test passes h) :
    FindsFirst (ListView.search test 0 hs) passes hs := by
  classical
  have answers : ∀ h ∈ hs, test h = .ok (decide (passes h)) := by
    intro h member
    obtain ⟨b, tested, iff⟩ := decides h member
    rw [tested, Bool.eq_iff_iff.mpr (iff.trans decide_eq_true_iff.symm)]
  have found : ListView.search test 0 hs = .ok (hs.findIdx? fun h => decide (passes h)) := by
    simpa using search_eq_findIdx? answers 0
  rw [found]
  refine ⟨?_, ?_, ⟨_, rfl⟩⟩
  · intro i
    rw [Except.ok.injEq, List.findIdx?_eq_some_iff_getElem]
    constructor
    · intro least
      obtain ⟨inside, passes_i, before⟩ := least
      refine ⟨⟨_, List.getElem?_eq_getElem inside, of_decide_eq_true passes_i⟩, ?_⟩
      intro j g less at_j passes_g
      obtain ⟨_, rfl⟩ := List.getElem?_eq_some_iff.mp at_j
      exact before j less (decide_eq_true passes_g)
    · intro least
      obtain ⟨⟨h, at_i, passes_h⟩, before⟩ := least
      obtain ⟨inside, rfl⟩ := List.getElem?_eq_some_iff.mp at_i
      refine ⟨inside, decide_eq_true passes_h, fun j less passes_j => ?_⟩
      have at_j := List.getElem?_eq_getElem (Nat.lt_trans less inside)
      exact before j _ less at_j (of_decide_eq_true passes_j)
  · rw [Except.ok.injEq, List.findIdx?_eq_none_iff]
    exact forall₂_congr fun h _ => decide_eq_false_iff_not

end Search

namespace ListView

variable {a : Arena} {p : Picture} {v : ListView} {h : Handle}

/-- The bytes of a string tell its text, and only strings and numbers have one. -/
theorem decides_hasText (shows : a.Shows p) (issued : p.heap.Issued h) (text : String) :
    Decides (hasText a text) (fun h => a.readString h = .ok text) h := by
  by_cases numeric : h.kind.isNumeric = true
  · obtain ⟨⟨s, read⟩, _⟩ := Arena.reads_of_numeric shows.holds issued numeric
    have other : h.kind ≠ .string := by
      intro string
      rw [string] at numeric
      cases numeric
    exact ⟨s == text, by simp only [hasText, other, numeric, read, if_true, if_false, Except.map],
      by simp [read]⟩
  · rcases issued.shape with ⟨v, rfl⟩ | rfl | ⟨addr, c, found, rfl⟩
    · exact absurd rfl numeric
    · refine decides_of_fails rfl fun read => ?_
      cases read
    · have read := Arena.readString_of_holds shows.holds found
      by_cases string : c.kind = .string
      · obtain ⟨s, rfl⟩ := Cell.eq_string_of_kind string
        exact ⟨s == text, hasText_of_string shows found text, by simp [read, Cell.text]⟩
      · have kind : (p.heap.handleAt addr).kind = c.kind := by
          rw [Heap.handleAt_of_some found]
          rfl
        rw [kind] at numeric
        refine decides_of_fails ?_ fun reads => ?_
        · simp only [hasText, kind, string, numeric, if_false, Bool.false_eq_true]
        · exact absurd ((Cell.text_iff string).mp ⟨text, read ▸ reads⟩) numeric

theorem decides_hasNumber (shows : a.Shows p) (issued : p.heap.Issued h) (number : Binary64) :
    Decides (hasNumber a number)
      (fun h => h.kind.isNumeric = true ∧ ∃ y, a.readDouble h = .ok y ∧ y.equals number = true)
      h := by
  by_cases numeric : h.kind.isNumeric = true
  · obtain ⟨_, ⟨y, read⟩⟩ := Arena.reads_of_numeric shows.holds issued numeric
    refine ⟨y.equals number, by simp only [hasNumber, numeric, read, if_true, Except.map], ?_⟩
    simp [numeric, read]
  · refine decides_of_fails ?_ fun given => absurd given.1 numeric
    simp only [hasNumber, numeric, Bool.false_eq_true, if_false]

/-- A view searches the contents that it is brought up to. -/
theorem searches_of_fresh {u : ListView} (shows : a.Shows p) (fresh : ensureFresh a v = (.ok (), u))
    (issued : ∀ h ∈ u.values, p.heap.Issued h) : v.Searches a u.values.toList := by
  constructor
  · intro text
    have searched : indexOfText a text v = _ := read_apply fresh _
    rw [searched]
    exact findsFirst_search fun h member =>
      decides_hasText shows (issued h (Array.mem_toList_iff.mp member)) text
  · intro number
    have searched : indexOfNumber a number v = _ := read_apply fresh _
    rw [searched]
    exact findsFirst_search fun h member =>
      decides_hasNumber shows (issued h (Array.mem_toList_iff.mp member)) number

/-- A view searches the contents that it answers with. -/
theorem searches_of_sees (shows : a.Shows p) (sees : p.Sees v) :
    ∃ contents, (allValues a v).1 = .ok contents ∧ v.Searches a contents.toList := by
  obtain ⟨u, fresh, sees_u, _⟩ := ensureFresh_sees shows sees
  have answer : allValues a v = _ := read_apply fresh _
  exact ⟨u.values, by rw [answer], searches_of_fresh shows fresh sees_u.values⟩

/-- What a view that was just built remembers are the contents of its list. -/
theorem contents_view (shows : a.Shows p) (header : Descriptor) :
    ((p.lists header.addr).mapM fun e => a.decode e.content) =
      .ok (p.view header).values.toList := by
  apply mapM_eq_ok
  intro e member
  obtain ⟨i, found⟩ := List.getElem?_of_mem member
  exact decode_content shows (shows.formed.content _ i e found)

theorem searches_of_view {header : Descriptor} (shows : a.Shows p)
    (fresh : ensureFresh a v = (.ok (), p.view header)) (sees : p.Sees (p.view header)) :
    ∃ contents, ((p.lists header.addr).mapM fun e => a.decode e.content) = .ok contents ∧
      v.Searches a contents :=
  ⟨_, contents_view shows header, searches_of_fresh shows fresh sees.values⟩

theorem ensureFresh_view (shows : a.Shows p) (header : Descriptor) :
    ensureFresh a (p.view header) = (.ok (), p.view header) := by
  have fresh : (p.view header).isFresh a = true := by
    rw [isFresh, shows.generation]
    exact beq_self_eq_true _
  simp only [ensureFresh, Step.view_bind, fresh, if_true]
  rfl

end ListView
end ValueArena
