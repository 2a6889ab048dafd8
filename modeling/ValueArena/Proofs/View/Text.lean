import ValueArena.Proofs.View.Search

/-!
The text of a list. It is that of the contents one after the other, without the empty slots, and the
first content that has no text makes it fail.
-/
namespace ValueArena

/-- Strings and numbers have a text. -/
def Kind.hasText (k : Kind) : Bool := k == .string || k.isNumeric

/-- A handle of something other than an empty slot that has no text. -/
def Handle.lacksText (h : Handle) : Bool := !h.isNone && !h.kind.hasText

namespace Arena

/-- The texts of the contents that are not empty slots. -/
def texts (a : Arena) (contents : List Handle) : Except MemoryError (List String) :=
  (contents.filter fun h => !h.isNone).mapM a.readString

/-- What a content adds to the text of its list. -/
def contentText (a : Arena) (h : Handle) : Except MemoryError String :=
  if h.isNone then .ok "" else a.readString h

/-- What the content that is kept of a handle adds. An immediate is kept as a double. -/
def appendedText (a : Arena) : Handle → Except MemoryError String
  | .immediate v => .ok (Binary64.ofInt v.toInt).text
  | .stored d => a.contentText (.stored d)

variable {a : Arena} {p : Picture} {h : Handle} {hs : List Handle}

theorem texts_cons_none (none : h.isNone = true) : a.texts (h :: hs) = a.texts hs := by
  simp only [texts, List.filter_cons, none, Bool.not_true, Bool.false_eq_true, if_false]

theorem texts_cons (other : h.isNone = false) :
    a.texts (h :: hs) = (do return (← a.readString h) :: (← a.texts hs)) := by
  simp only [texts, List.filter_cons, other, Bool.not_false, if_true, List.mapM_cons]

/-- The texts depend on nothing but the reads of the contents. -/
theorem texts_congr {b : Arena} (same : ∀ h ∈ hs, b.readString h = a.readString h) :
    b.texts hs = a.texts hs := by
  induction hs with
  | nil => rfl
  | cons h hs ih =>
    have later := ih fun g member => same g (.tail h member)
    cases none : h.isNone with
    | true => rw [texts_cons_none none, texts_cons_none none, later]
    | false => rw [texts_cons none, texts_cons none, later, same h (.head hs)]

/-- One content more adds its text. -/
theorem join_texts_append (a : Arena) (hs : List Handle) (h : Handle) :
    (a.texts (hs ++ [h])).map String.join =
      (do return String.join (← a.texts hs) ++ (← a.contentText h)) := by
  have last : a.texts (hs ++ [h]) = (do return (← a.texts hs) ++ (← a.texts [h])) := by
    simp only [texts, List.filter_append, List.mapM_append]
  have single : (a.texts [h]).map String.join = a.contentText h := by
    cases none : h.isNone with
    | true =>
      rw [texts_cons_none none, contentText, if_pos none]
      rfl
    | false =>
      rw [texts_cons none, contentText, if_neg (by simp [none])]
      cases a.readString h <;> simp [texts, bind, Except.bind, pure, Except.pure, Except.map]
  rw [last, ← single]
  cases a.texts hs with
  | error e => rfl
  | ok texts =>
    cases a.texts [h] with
    | error e => rfl
    | ok text => simp [bind, Except.bind, pure, Except.pure, Except.map]

/-- A read as a text is refused by the kind alone. -/
theorem readString_of_lacks (lacks : h.kind.hasText = false) :
    a.readString h = .error (.unsupportedSourceType h.kind) := by
  rw [readString]
  cases kind : h.kind <;> first
    | rfl
    | (rw [kind] at lacks; cases lacks)

theorem readString_of_hasText (shows : a.Shows p) (issued : p.heap.Issued h)
    (has : h.kind.hasText = true) : ∃ text, a.readString h = .ok text := by
  by_cases numeric : h.kind.isNumeric = true
  · exact (reads_of_numeric shows.holds issued numeric).1
  · have string : h.kind = .string := by simpa [Kind.hasText, numeric] using has
    rcases issued.shape with ⟨v, rfl⟩ | rfl | ⟨addr, c, found, rfl⟩
    · cases string
    · cases string
    · rw [Heap.handleAt_of_some found] at string
      obtain ⟨text, rfl⟩ := Cell.eq_string_of_kind string
      exact ⟨text, readString_of_holds shows.holds found⟩

theorem readString_iff (shows : a.Shows p) (issued : p.heap.Issued h) :
    (∃ text, a.readString h = .ok text) ↔ h.kind.hasText = true := by
  constructor
  · intro read
    obtain ⟨text, read⟩ := read
    cases has : h.kind.hasText with
    | true => rfl
    | false =>
      rw [readString_of_lacks has] at read
      cases read
  · exact readString_of_hasText shows issued

/-- The first content without a text is the one that the texts fail at. -/
theorem texts_eq_error_iff (shows : a.Shows p) (issued : ∀ h ∈ hs, p.heap.Issued h)
    (e : MemoryError) : a.texts hs = .error e ↔
      ∃ h, hs.find? Handle.lacksText = some h ∧ e = .unsupportedSourceType h.kind := by
  induction hs with
  | nil => simp [texts, pure, Except.pure]
  | cons h hs ih =>
    have later := ih fun g member => issued g (.tail h member)
    rw [List.find?_cons]
    cases none : h.isNone with
    | true =>
      rw [texts_cons_none none, Handle.lacksText, none]
      exact later
    | false =>
      rw [texts_cons none, Handle.lacksText, none]
      cases has : h.kind.hasText with
      | true =>
        obtain ⟨text, read⟩ := readString_of_hasText shows (issued h (.head hs)) has
        rw [read]
        refine Iff.trans ?_ later
        cases a.texts hs <;> simp [bind, Except.bind, pure, Except.pure]
      | false =>
        rw [readString_of_lacks has]
        simp [bind, Except.bind, eq_comm]

section Appended

variable {b : Arena} {q : Picture} {l : Addr} {content item kept : Handle}
  (appends : a.Appended p l content item kept b q) (shows : a.Shows p) (list : p.heap.IsList l)
include appends shows list

/-- An append changes no text. -/
theorem Appended.readString_eq (issued : p.heap.Issued h) : b.readString h = a.readString h := by
  cases has : h.kind.hasText with
  | false => rw [readString_of_lacks has, readString_of_lacks has]
  | true =>
    rcases issued.shape with ⟨v, rfl⟩ | rfl | ⟨addr, c, found, rfl⟩
    · rfl
    · cases has
    · have stays : q.heap addr = some c := by
        cases c with
        | plain =>
          exact appends.stays addr _ found (Picture.apart_of_plain shows.formed list found)
        | list | item | object =>
          rw [Heap.handleAt_of_some found] at has
          cases has
      rw [readString_of_holds shows.holds found, ← appends.evolves.grows.handleAt found,
        readString_of_holds appends.shows.holds stays]

theorem Appended.texts_eq (issued : ∀ h ∈ hs, p.heap.Issued h) : b.texts hs = a.texts hs :=
  texts_congr fun h member => appends.readString_eq shows list (issued h member)

theorem Appended.contentText_kept (issued : p.heap.Issued content) :
    b.contentText kept = a.appendedText content := by
  have keeps := appends.keeps
  cases content with
  | immediate v =>
    have found := keeps.2
    rw [appends.kept_handle, contentText, readString_of_holds appends.shows.holds found,
      Heap.handleAt_of_some found]
    rfl
  | stored d =>
    have kept_eq : kept = if d.kind = .none then .none else .stored d := keeps
    rw [kept_eq, appendedText]
    by_cases none : d.kind = .none
    · simp [none, contentText, Handle.isNone, Handle.kind, Handle.none]
    · rw [if_neg none, contentText, contentText, appends.readString_eq shows list issued]

end Appended

end Arena

namespace ListView

/-- The view tells the text of these contents. -/
structure Tells (v : ListView) (a : Arena) (contents : List Handle) : Prop where
  none : (toText a v).1 = .ok none ↔ contents = []
  joined : ∀ text, (toText a v).1 = .ok (some text) ↔
    contents ≠ [] ∧ ∃ texts, a.texts contents = .ok texts ∧ text = String.join texts
  fails : ∀ e, (toText a v).1 = .error e ↔
    ∃ h, contents.find? Handle.lacksText = some h ∧ e = .unsupportedSourceType h.kind
  readable : ∀ h ∈ contents, (∃ text, a.readString h = .ok text) ↔ h.kind.hasText = true

/-- The view tells the text of all contents of its list, and that it has none by its count. -/
def TellsWhole (v : ListView) (a : Arena) : Prop :=
  ∃ es contents, a.Represents v.header.addr es ∧
    (es.mapM fun e => a.decode e.content) = .ok contents ∧ v.Tells a contents ∧
    ((toText a v).1 = .ok none ↔ v.count a = .ok 0)

variable {a : Arena} {p : Picture} {u v : ListView}

/-- A text goes on with the texts of the contents that follow. -/
theorem foldlM_addText (a : Arena) (hs : List Handle) (text : String) :
    hs.foldlM (addText a) text = (a.texts hs).map fun texts => text ++ String.join texts := by
  induction hs generalizing text with
  | nil => simp [Arena.texts, pure, Except.pure, Except.map]
  | cons h hs ih =>
    rw [List.foldlM_cons, addText]
    cases none : h.isNone with
    | true =>
      rw [Arena.texts_cons_none none]
      exact ih text
    | false =>
      rw [Arena.texts_cons none]
      simp only [Bool.false_eq_true, if_false]
      cases a.readString h with
      | error e => rfl
      | ok first =>
        refine (ih (text ++ first)).trans ?_
        cases a.texts hs <;>
          simp [bind, Except.bind, pure, Except.pure, Except.map, String.append_assoc]

theorem concat_eq (a : Arena) (hs : List Handle) :
    concat a hs = (a.texts hs).map String.join := by
  rw [concat, foldlM_addText]
  simp

theorem toText_of_fresh (fresh : ensureFresh a v = (.ok (), u)) : (toText a v).1 =
    if u.values.toList = [] then .ok none else ((a.texts u.values.toList).map String.join).map some
    := by
  have answer : toText a v = _ := read_apply fresh _
  rw [answer, concat_eq]
  simp only [Array.isEmpty_iff, Array.toList_eq_nil_iff]

/-- A view tells the text of the contents that it is brought up to. -/
theorem tells_of_fresh (shows : a.Shows p) (fresh : ensureFresh a v = (.ok (), u))
    (issued : ∀ h ∈ u.values, p.heap.Issued h) : v.Tells a u.values.toList := by
  have members : ∀ h ∈ u.values.toList, p.heap.Issued h :=
    fun h member => issued h (Array.mem_toList_iff.mp member)
  have told := toText_of_fresh fresh
  have failing := Arena.texts_eq_error_iff shows members
  generalize u.values.toList = hs at *
  cases hs with
  | nil =>
    rw [if_pos rfl] at told
    constructor
    · simp [told]
    · simp [told]
    · simp [told]
    · exact nofun
  | cons h hs =>
    rw [if_neg (List.cons_ne_nil h hs)] at told
    constructor
    · rw [told]
      cases a.texts (h :: hs) <;> simp [Except.map]
    · intro text
      rw [told]
      cases a.texts (h :: hs) <;> simp [Except.map, eq_comm]
    · intro e
      rw [told, ← failing]
      cases a.texts (h :: hs) <;> simp [Except.map]
    · exact fun g member => Arena.readString_iff shows (members g member)

theorem tells_of_sees (shows : a.Shows p) (sees : p.Sees v) :
    ∃ contents, (allValues a v).1 = .ok contents ∧ v.Tells a contents.toList := by
  obtain ⟨u, fresh, sees_u, _⟩ := ensureFresh_sees shows sees
  have answer : allValues a v = _ := read_apply fresh _
  exact ⟨u.values, by rw [answer], tells_of_fresh shows fresh sees_u.values⟩

theorem tellsWhole_of_current (shows : a.Shows p) (sees : p.Sees v) (current : v.Current a p) :
    v.TellsWhole a := by
  have tells := tells_of_fresh shows (ensureFresh_current shows sees.header current)
    (Picture.sees_view shows.formed.null sees.header sees.named).values
  have represents := shows.represents sees.header
  refine ⟨_, _, represents, contents_view shows v.header, tells, ?_⟩
  obtain ⟨n, loaded, length⟩ := represents.count
  have counted : v.count a = .ok n := loaded
  have empty : n = 0 ↔ p.lists v.header.addr = [] := by
    rw [← List.length_eq_zero_iff, ← length, ← UInt32.toNat_inj]
    rfl
  rw [tells.none, counted, Except.ok.injEq, empty]
  simp [Picture.view]

end ListView
end ValueArena
