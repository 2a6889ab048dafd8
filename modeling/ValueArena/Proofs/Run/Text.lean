import ValueArena.Proofs.Run.Coherence
import ValueArena.Proofs.Run.Sequences
import ValueArena.Proofs.View.Text

/-!
Texts of lists after any program. A list's text is made of the texts of its contents, and an append
adds that of the content which it stores, whichever view the text is read through.
-/
namespace ValueArena

variable {T : Type → Type → Type} [KeyMap T]

/-- The text of the list with this header, read through a view that is opened for it. -/
def Arena.listText (a : Arena) (header : Descriptor) : Except MemoryError (Option String) := do
  let v ← ListView.ofHandle a (.stored header)
  (ListView.toText a v).1

/-- From `a` to the state after it the list has been given a content, stored in `item`. Its text
goes on with that of the stored content, through views that are opened and, while the writes are
`few`, through views that were kept. -/
structure ListView.AppendsText (v : ListView) (content item : Handle) (a : Arena)
    (next : Names × Arena) (few : Prop) : Prop where
  stored : ∃ addr kept, next.2.loadField Addr item.addr .itemContent = .ok addr ∧
    next.2.decode addr = .ok kept ∧ next.2.contentText kept = a.appendedText content
  opened : ∀ text, a.listText v.header = .ok text → next.2.listText v.header =
    (a.appendedText content).map fun added => some (text.getD "" ++ added)
  kept : few → ∀ u, next.1.HasView u → u.header.addr = v.header.addr →
    (ListView.toText next.2 u).1 = next.2.listText v.header

namespace ListView

variable {a b : Arena} {p q : Picture} {u v : ListView} {content item kept : Handle}

theorem listText_eq (shows : a.Shows p) (sees : p.Sees v) :
    a.listText v.header = (toText a (p.view v.header)).1 := by
  have opened : ofHandle a (.stored v.header) = _ := (reopened shows sees).1
  rw [Arena.listText, opened]
  rfl

theorem toText_of_current (shows : a.Shows p) (sees : p.Sees v) (current : v.Current a p) :
    (toText a v).1 = a.listText v.header := by
  rw [listText_eq shows sees, toText_of_fresh (ensureFresh_current shows sees.header current),
    toText_of_fresh (ensureFresh_view shows v.header)]

/-- The text of a list with one content more. -/
theorem listText_appended (shows : a.Shows p) (sees : p.Sees v) (sees_q : q.Sees v)
    (issued : p.heap.Issued content) (appends : a.Appended p v.header.addr content item kept b q)
    {text : Option String} (told : a.listText v.header = .ok text) :
    b.listText v.header =
      (a.appendedText content).map fun added => some (text.getD "" ++ added) := by
  have before : (toText a (p.view v.header)).1 = _ :=
    toText_of_fresh (ensureFresh_view shows v.header)
  have after : (toText b (q.view v.header)).1 = _ :=
    toText_of_fresh (ensureFresh_view appends.shows v.header)
  have values := (Picture.sees_view shows.formed.null sees.header sees.named).values
  have issued_values : ∀ h ∈ (p.view v.header).values.toList, p.heap.Issued h :=
    fun h member => values h (Array.mem_toList_iff.mp member)
  have texts := appends.texts_eq shows sees.header issued_values
  rw [listText_eq shows sees, before] at told
  rw [listText_eq appends.shows sees_q, after, Picture.view_appended shows appends,
    Array.toList_push, if_neg (by simp), Arena.join_texts_append, texts,
    appends.contentText_kept shows sees.header issued]
  generalize (p.view v.header).values.toList = hs at *
  cases hs with
  | nil =>
    cases told
    cases a.appendedText content <;> rfl
  | cons h hs =>
    rw [if_neg (List.cons_ne_nil h hs)] at told
    cases joined : a.texts (h :: hs) with
    | error e =>
      rw [joined] at told
      cases told
    | ok texts =>
      rw [joined] at told
      cases told
      cases a.appendedText content <;> rfl

end ListView

namespace Command

variable {n : Names} {a : Arena} {p : Picture}

/-- An append that succeeds adds the text of what it stores. -/
theorem appendsText (shows : a.Shows p) (names : n.Fits p) (r : Registry T) {name : String}
    {command : ListCommand} {content : HandleArg} (form : appended? command = some content)
    {item : Handle} (done : ((Command.onList name command).run r (n, a)).1 = .ok (.handle item)) :
    ∃ v h, n.lists.find? name = some v ∧ content.value? n = some h ∧
      v.AppendsText h item a ((Command.onList name command).run r (n, a)).2
        (p.writes + 1 < 0x10000000000000000) := by
  obtain ⟨v, h, view, given⟩ := append_given shows names r form done
  have ran : (Command.onList name command).run r (n, a) = _ := runOnList_append form view given
  have sees := names.lists name v view
  have issued := HandleArg.issued names shows.formed.null given
  refine ⟨v, h, view, given, ?_⟩
  rcases ListView.append_cases shows sees issued with
    ⟨x, y, b, q, failed, _⟩ | ⟨new, kept, b, q, u, appended, appends, sees_u, header, _⟩
  · have refused := Step.bind_pure_apply (g := Answer.handle) (changingList_apply view failed)
    rw [ran, refused] at done
    cases done
  · have added := Step.bind_pure_apply (g := Answer.handle) (changingList_apply view appended)
    rw [ran, added] at done ⊢
    cases done
    have null := appends.shows.formed.null
    have fits := (names.evolves appends.evolves shows.formed null).insert_list name sees_u
    have sees_q := sees.evolves appends.evolves shows.formed null
    constructor
    · have content := Arena.load_itemContent (appends.shows.holds.lies appends.cell)
      refine ⟨kept.addr, kept, content, ?_, appends.contentText_kept shows sees.header issued⟩
      have last : (⟨item.addr, kept.addr⟩ : Entry) ∈ q.lists v.header.addr := by
        rw [appends.evolves.lists]
        simp [Change.on]
      obtain ⟨i, at_i⟩ := List.getElem?_of_mem last
      have held := appends.shows.formed.content _ i _ at_i
      exact (ListView.decode_content appends.shows held).trans
        (congrArg Except.ok appends.kept_handle.symm)
    · intro text told
      exact ListView.listText_appended shows sees sees_q issued appends told
    · intro few w kept_w same
      have sees_w := fits.sees kept_w
      have headers := sees_w.named.eq_of_addr sees_q.named same
      have count := appends.evolves.writes
      rw [ListView.toText_of_current appends.shows sees_w
        (ListView.current_of_sees appends.shows sees_w (by simp at count; omega)), headers]

end Command

namespace Statement

/-- In a state every view of every list tells the text of its contents, and an append adds the text
of what it stores. This asks of a view that was kept only that the count of `writes` has not wrapped
around since; otherwise it may tell the text of what it answers with instead. -/
structure TellsTexts (r : Registry T) (state : Names × Arena) (writes : Nat) : Prop where
  kept : ∀ v, state.1.HasView v → ∃ contents, (ListView.allValues state.2 v).1 = .ok contents ∧
    v.Tells state.2 contents.toList
  current : writes < 0x10000000000000000 → ∀ v, state.1.HasView v →
    v.TellsWhole state.2 ∧ (ListView.toText state.2 v).1 = state.2.listText v.header
  opened : ∀ l, state.2.Starts .list l → ∃ h v, state.2.decode l = .ok h ∧
    ListView.ofHandle state.2 h = .ok v ∧ v.header.addr = l ∧ v.TellsWhole state.2
  appends : ∀ name command content item, Command.appended? command = some content →
    ((Command.onList name command).run r state).1 = .ok (.handle item) →
    ∃ v h, state.1.lists.find? name = some v ∧ content.value? state.1 = some h ∧
      v.AppendsText h item state.2 ((Command.onList name command).run r state).2
        (writes + 1 < 0x10000000000000000)

theorem tellsTexts_after (r : Registry T) (config : Config) (program : List Statement)
    (allowed : ∀ s ∈ program, s.command.isPublic = true) :
    TellsTexts r (after r config program) (listWrites r program (.empty, .empty config)) := by
  obtain ⟨p, shows, names, writes⟩ := after_shows r config allowed
  rw [← writes]
  constructor
  · exact fun v kept => ListView.tells_of_sees shows (names.sees kept)
  · intro few v kept
    have sees := names.sees kept
    have current := ListView.current_of_sees shows sees few
    exact ⟨ListView.tellsWhole_of_current shows sees current,
      ListView.toText_of_current shows sees current⟩
  · intro l starts
    have list := (Arena.isList_iff shows).mp starts
    obtain ⟨header, rfl, decoded, opened, sees⟩ := ListView.ofHandle_of_isList shows list
    exact ⟨_, _, decoded, opened, rfl, ListView.tellsWhole_of_current shows sees fun _ => rfl⟩
  · intro name command content item form done
    exact Command.appendsText shows names r form done

/-- A list of a text, an empty slot and a number, and one of nothing but an empty slot. -/
def textsSample : List Statement :=
  [⟨some "list", .listCreate⟩, ⟨some "slots", .listCreate⟩, ⟨some "none", .listCreate⟩,
   ⟨some "text", .create (.string "text")⟩,
   ⟨none, .onList "list" (.append (.named "text"))⟩, ⟨none, .onList "list" .appendEmpty⟩,
   ⟨none, .onList "list" (.append (.immediate 7))⟩, ⟨none, .onList "slots" .appendEmpty⟩]

/-- The text of a view that the state keeps. -/
def textOf (state : Names × Arena) (name : String) : Option (Except MemoryError (Option String)) :=
  (state.1.lists.find? name).map fun v => (ListView.toText state.2 v).1

/-- A list of empty slots has the empty text, which a list of nothing has not. -/
theorem tellsTexts_after_textsSample :
    TellsTexts .empty (after .empty ⟨64, none⟩ textsSample) 4 ∧
      textOf (after .empty ⟨64, none⟩ textsSample) "list" = some (.ok (some "text7.0")) ∧
      textOf (after .empty ⟨64, none⟩ textsSample) "slots" = some (.ok (some "")) ∧
      textOf (after .empty ⟨64, none⟩ textsSample) "none" = some (.ok none) := by
  have writes : listWrites .empty textsSample (.empty, .empty ⟨64, none⟩) = 4 := by decide +kernel
  have tells := tellsTexts_after .empty ⟨64, none⟩ textsSample (by decide)
  rw [writes] at tells
  have texts : ["list", "slots", "none"].map (textOf (after .empty ⟨64, none⟩ textsSample)) =
      [some (.ok (some "text7.0")), some (.ok (some "")), some (.ok none)] := by decide +kernel
  simp only [List.map_cons, List.map_nil, List.cons.injEq, and_true] at texts
  exact ⟨tells, texts⟩

end Statement
end ValueArena
