import ValueArena.Proofs.Run.Sequences
import ValueArena.Proofs.View.Search

/-!
Searches of lists after any program. A list is searched as the sequence of its contents, through
a view that was kept as well as through one that is opened for the search.
-/
namespace ValueArena.Statement

variable {T : Type → Type → Type} [KeyMap T]

/-- Searches through any view of any list find the first content of the sequence that the list
stands for. This asks of a view that was kept only that the count of `writes` has not wrapped around
since; otherwise it may search what it answers with instead. -/
structure SearchesLists (state : Names × Arena) (writes : Nat) : Prop where
  kept : ∀ v, state.1.HasView v → ∃ contents, (ListView.allValues state.2 v).1 = .ok contents ∧
    v.Searches state.2 contents.toList
  current : writes < 0x10000000000000000 → ∀ v es, state.1.HasView v →
    state.2.Represents v.header.addr es →
      ∃ contents, (es.mapM fun e => state.2.decode e.content) = .ok contents ∧
        v.Searches state.2 contents
  opened : ∀ l, state.2.Starts .list l → ∃ h v es contents, state.2.decode l = .ok h ∧
    ListView.ofHandle state.2 h = .ok v ∧ state.2.Represents l es ∧
      (es.mapM fun e => state.2.decode e.content) = .ok contents ∧ v.Searches state.2 contents

theorem searchesLists_after (r : Registry T) (config : Config) (program : List Statement)
    (allowed : ∀ s ∈ program, s.command.isPublic = true) :
    SearchesLists (after r config program) (listWrites r program (.empty, .empty config)) := by
  obtain ⟨p, shows, names, writes⟩ := after_shows r config allowed
  constructor
  · exact fun v kept => ListView.searches_of_sees shows (names.sees kept)
  · intro few v es kept represents
    rw [represents.eq_lists shows]
    have sees := names.sees kept
    exact ListView.searches_of_view shows (ListView.ensureFresh_ok shows sees (by omega))
      (Picture.sees_view shows.formed.null sees.header sees.named)
  · intro l starts
    have list := (Arena.isList_iff shows).mp starts
    obtain ⟨header, rfl, decoded, opened, sees⟩ := ListView.ofHandle_of_isList shows list
    obtain ⟨contents, values, searches⟩ :=
      ListView.searches_of_view shows (ListView.ensureFresh_view shows header) sees
    exact ⟨_, _, _, contents, decoded, opened, shows.represents list, values, searches⟩

/-- A list with an empty slot, itself, a number and a text that reads as the number. -/
def searchSample : List Statement :=
  [⟨some "list", .listCreate⟩, ⟨some "header", .onList "list" .handle⟩,
   ⟨some "number", .create (.integer 7)⟩, ⟨some "text", .create (.string "7")⟩,
   ⟨none, .onList "list" .appendEmpty⟩, ⟨none, .onList "list" (.append (.named "header"))⟩,
   ⟨none, .onList "list" (.append (.named "number"))⟩,
   ⟨none, .onList "list" (.append (.named "text"))⟩]

/-- The number comes before the text, whether a number or a text is searched for. -/
theorem searchesLists_after_searchSample :
    SearchesLists (after .empty ⟨64, none⟩ searchSample) 4 ∧
      ∃ v, (after .empty ⟨64, none⟩ searchSample).1.lists.find? "list" = some v ∧
        (ListView.indexOfText (after .empty ⟨64, none⟩ searchSample).2 "7" v).1 = .ok (some 2) ∧
        (ListView.indexOfNumber (after .empty ⟨64, none⟩ searchSample).2 (.ofInt 7) v).1 =
          .ok (some 2) := by
  have writes : listWrites .empty searchSample (.empty, .empty ⟨64, none⟩) = 4 := by decide +kernel
  have searches := searchesLists_after .empty ⟨64, none⟩ searchSample (by decide)
  rw [writes] at searches
  have results : ((after .empty ⟨64, none⟩ searchSample).1.lists.find? "list").map (fun v =>
      ((ListView.indexOfText (after .empty ⟨64, none⟩ searchSample).2 "7" v).1,
        (ListView.indexOfNumber (after .empty ⟨64, none⟩ searchSample).2 (.ofInt 7) v).1)) =
      some (.ok (some 2), .ok (some 2)) := by decide +kernel
  obtain ⟨v, found, pair⟩ := Option.map_eq_some_iff.mp results
  exact ⟨searches, v, found, congrArg Prod.fst pair, congrArg Prod.snd pair⟩

end ValueArena.Statement
