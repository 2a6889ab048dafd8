import ValueArena.Proofs.Run.Counters
import ValueArena.Proofs.Run.Sequences
import ValueArena.Proofs.View.Object
import ValueArena.Proofs.View.Strange

/-!
Writes of contents that fail, in whatever state a program leaves and with handles from anywhere.
With an item and a content of the arena they change nothing. With others a number may have been
promoted in vain, and a content may be in its item by the time that it is found not to be
readable.
-/
namespace ValueArena

variable {T : Type → Type → Type} [KeyMap T]

/-- What the arena has: numbers, the empty slot and its values. -/
def Arena.Has (a : Arena) : Handle → Prop
  | .immediate _ => True
  | .stored d => d.kind = .none ∨ ∃ kind, a.Starts kind d.addr

/-- Whatever passes for an item is one of the arena. -/
def Arena.HasAsItem (a : Arena) (h : Handle) : Prop :=
  h.kind = .listItem → a.Starts .listItem h.addr

namespace ListView

/-- What a write of a content that failed has left. -/
inductive FailedWrite (v : ListView) (a : Arena) (item content : Handle) (e : MemoryError) :
    ListView → Arena → Prop
  | unchanged : FailedWrite v a item content e v a
  /-- A double was made of the number, and the item has no place for it. -/
  | promoted (n double b) (number : content = .immediate n) (strange : ¬ a.HasAsItem item)
      (makes : a.Makes b double) (lists : a.Changed b [])
      (generation : b.generation = a.generation) :
      FailedWrite v a item content e v b
  /-- The item holds the content. Nothing can be decoded there, so the list cannot be read. -/
  | dangling (d u b) (stored : content = .stored d) (strange : ¬ a.Has content)
      (starts : a.Starts .listItem item.addr)
      (written : b.loadField Addr item.addr .itemContent = .ok d.addr)
      (lost : b.decode d.addr = .error e) (generation : b.generation = a.generation + 1)
      (room : b.store.room = a.store.room)
      (unreadable : ∀ w : ListView, w.header = v.header → ∃ t, refresh b w = (.error e, t)) :
      FailedWrite v a item content e u b
  /-- The address of the content was written over something that is no item. -/
  | overwritten (addr kept c u b) (strange : ¬ a.HasAsItem item)
      (made : Arena.materialize content a = (.ok (addr, kept), c))
      (wrote : Arena.writeField item.addr .itemContent addr c =
        (.ok (), { b with generation := c.generation }))
      (generation : b.generation = c.generation + 1) : FailedWrite v a item content e u b

variable {a b : Arena} {p : Picture} {v u : ListView} {item content : Handle} {e x : MemoryError}

/-- With an item and a content of the arena nothing has happened. -/
theorem FailedWrite.same (failed : v.FailedWrite a item content e u b) (here : a.HasAsItem item)
    (has : a.Has content) : u = v ∧ b = a := by
  cases failed with
  | unchanged => exact ⟨rfl, rfl⟩
  | promoted _ _ _ _ strange => exact absurd here strange
  | dangling _ _ _ _ strange => exact absurd has strange
  | overwritten _ _ _ _ _ strange => exact absurd here strange

theorem hasAsItem_of_issued (shows : a.Shows p) (issued : p.heap.Issued item) :
    a.HasAsItem item := by
  intro kind
  cases item with
  | immediate n => cases kind
  | stored d =>
    have other : d.addr ≠ .null := by
      intro null
      have named : p.heap.handleAt d.addr = .stored d := issued
      rw [null, Heap.handleAt_of_none shows.formed.null] at named
      cases named
      cases kind
    obtain ⟨c, found, named⟩ := issued.cell other
    refine (Arena.starts_iff shows.holds).mpr ⟨c, found, ?_⟩
    rw [named] at kind
    exact kind

/-- A content that a written item makes unreadable is not one of the arena. -/
theorem not_has_of_lost (shows : a.Shows p) {x old next : Addr} {d : Descriptor}
    (found : p.heap x = some (.item old next)) (named : d.kind ≠ .none)
    (holds : b.store.Holds (p.heap.put x (.item d.addr next))) (lost : b.decode d.addr = .error e) :
    ¬ a.Has (.stored d) := by
  rintro (none | ⟨kind, starts⟩)
  · exact named none
  · obtain ⟨c, at_d, _⟩ := (Arena.starts_iff shows.holds).mp starts
    have becomes := Cell.becomes_of_rewritten (c := .item old next) (d := .item d.addr next) rfl rfl
    obtain ⟨c', after, _⟩ := Heap.grows_put found becomes d.addr c at_d
    rw [Arena.decode_of_holds holds after] at lost
    cases lost

/-- A number is promoted before anything else is done. -/
theorem materialize_makes (shows : a.Shows p) (content : Handle) :
    (∃ e, Arena.materialize content a = (.error e, a)) ∨
    ∃ addr kept c, Arena.materialize content a = (.ok (addr, kept), c) ∧
      (c = a ∨ ∃ n, content = .immediate n ∧ a.Makes c kept ∧ a.Changed c [] ∧
        c.generation = a.generation) := by
  cases content with
  | stored d => exact .inr ⟨_, _, a, rfl, .inl rfl⟩
  | immediate n =>
    have issued : p.heap.Issued (.immediate n) := trivial
    rcases Arena.materialize_cases shows issued with
      ⟨_, _, failed, _⟩ | ⟨kept, c, q, made, materializes⟩
    · exact .inl ⟨_, failed⟩
    · obtain ⟨fresh, found⟩ := materializes.keeps
      have after := materializes.shows
      refine .inr ⟨_, kept, c, made, .inr ⟨n, rfl,
        shows.makes after fresh found materializes.handle,
        shows.changed after materializes.evolves fun _ _ => rfl, ?_⟩⟩
      rw [after.generation, materializes.evolves.writes, shows.generation]
      rfl

/-- Something of another arena that passes for an item. -/
theorem setContent_strange (shows : a.Shows p) {d : Descriptor}
    (required : item.require .listItem = .ok d) (strange : ¬ a.HasAsItem item)
    (failed : setContent item content (v, a) = (.error e, (u, b))) :
    v.FailedWrite a item content e u b := by
  obtain ⟨rfl, _, _⟩ := Handle.require_ok required
  rcases materialize_makes shows content with ⟨x, refused⟩ | ⟨addr, kept, c, made, origin⟩
  · have stopped : Arena.setItemContent (.stored d) content a = (.error x, a) := by
      simp only [Arena.setItemContent, Step.view_bind, required]
      exact Step.bind_error refused
    cases (Step.bind_error (Step.onSecond_apply stopped)).symm.trans failed
    exact .unchanged
  · cases stored : c.store.storeField d.addr .itemContent addr with
    | error x =>
      have stopped : Arena.setItemContent (.stored d) content a = (.error x, c) := by
        simp only [Arena.setItemContent, Step.view_bind, required]
        rw [Step.bind_ok made]
        exact Step.bind_error (Arena.writeField_error stored)
      cases (Step.bind_error (Step.onSecond_apply stopped)).symm.trans failed
      rcases origin with rfl | ⟨n, number, makes, lists, generation⟩
      · exact .unchanged
      · exact .promoted n kept _ number strange makes lists generation
    | ok s =>
      have wrote := Arena.writeField_apply stored
      have changed : Arena.setItemContent (.stored d) content a =
          (.ok kept, { c with store := s, generation := c.generation + 1 }) := by
        simp only [Arena.setItemContent, Step.view_bind, required]
        rw [Step.bind_ok made, Step.bind_ok wrote]
        rfl
      have walked := (Step.bind_ok (Step.onSecond_apply changed)).symm.trans failed
      obtain ⟨result, t, ran⟩ : ∃ result t, refresh
        { c with store := s, generation := c.generation + 1 } v = (result, t) := ⟨_, _, rfl⟩
      rw [reading_apply ran] at walked
      cases walked
      exact .overwritten addr kept c _ _ strange made wrote rfl

/-- A content that was written and cannot be decoded. -/
theorem setContent_lost (shows : a.Shows p) (sees : p.Sees v) {d c : Descriptor} {old next : Addr}
    (found : p.heap d.addr = some (.item old next)) (named : c.kind ≠ .none)
    (holds : b.store.Holds (p.heap.put d.addr (.item c.addr next)))
    (generation : b.generation = a.generation + 1) (room : b.store.room = a.store.room)
    (lost : b.decode c.addr = .error e)
    (listed : ∃ f ∈ p.lists v.header.addr, f.item = d.addr) (u : ListView) :
    v.FailedWrite a (.stored d) (.stored c) e u b := by
  refine .dangling c u b rfl (not_has_of_lost shows found named holds lost)
    ((Arena.starts_iff shows.holds).mpr ⟨_, found, rfl⟩)
    (Arena.load_itemContent (holds.lies (Heap.put_self ..))) lost generation room ?_
  intro w header
  rw [← header] at listed
  have list : p.heap.IsList w.header.addr := by
    rw [header]
    exact sees.header
  rcases refresh_refilled shows found holds w list with
    ⟨_, _, _, readable⟩ | ⟨_, y, t, refused, walked, _⟩
  · obtain ⟨h, decoded⟩ := readable listed
    cases lost.symm.trans decoded
  · cases lost.symm.trans refused
    exact ⟨t, walked⟩

/-- Every way in which a write of a content fails. -/
theorem setContent_failed (shows : a.Shows p) (sees : p.Sees v)
    (failed : setContent item content (v, a) = (.error e, (u, b))) :
    v.FailedWrite a item content e u b := by
  cases required : item.require .listItem with
  | error y =>
    have stopped : Arena.setItemContent item content a = (.error y, a) := by
      simp only [Arena.setItemContent, Step.view_bind, required]
    cases (Step.bind_error (Step.onSecond_apply stopped)).symm.trans failed
    exact .unchanged
  | ok d =>
    by_cases here : a.HasAsItem item
    · obtain ⟨rfl, kind, _⟩ := Handle.require_ok required
      obtain ⟨cell, found, is_item⟩ := (Arena.starts_iff shows.holds).mp (here kind)
      obtain ⟨old, next, rfl⟩ := Cell.eq_item_of_kind is_item
      rcases setContent_item_cases shows sees content required found with
        ⟨y, ran⟩ | ⟨_, _, ran⟩ |
        ⟨c, b', y, u', rfl, named, holds, generation, room, lost, ran, _, listed⟩
      · cases ran.symm.trans failed
        exact .unchanged
      · cases ran.symm.trans failed
      · cases ran.symm.trans failed
        exact setContent_lost shows sees found named holds generation room lost listed u
    · exact setContent_strange shows required here failed

/-- A value from elsewhere is written to an item of the list whether it can be decoded or not. -/
theorem setContent_decides (shows : a.Shows p) (sees : p.Sees v) {d : Descriptor}
    (kind : item.kind = .listItem) (here : a.HasAsItem item)
    (listed : ∃ f ∈ p.lists v.header.addr, f.item = item.addr) (named : d.kind ≠ .none) :
    ∃ u b, setContent item (.stored d) (v, a) = ((b.decode d.addr).map fun _ => (), (u, b)) ∧
      b.loadField Addr item.addr .itemContent = .ok d.addr ∧ b.generation = a.generation + 1 := by
  obtain ⟨cell, found, is_item⟩ := (Arena.starts_iff shows.holds).mp (here kind)
  obtain ⟨old, next, rfl⟩ := Cell.eq_item_of_kind is_item
  cases item with
  | immediate n => cases kind
  | stored i =>
    have stored : i.addr.isNull = false := Addr.isNull_eq_false (shows.addr_ne_null found)
    have required : (Handle.stored i).require .listItem = .ok i := by
      simp only [Handle.require, Handle.descriptor?, stored, Bool.false_eq_true, if_false]
      exact if_pos kind
    obtain ⟨b, wrote, holds, generation, _⟩ :=
      Arena.setItemContent_stored shows required found named
    have written : setContent (.stored i) (.stored d) (v, a) = reading refresh (v, b) :=
      Step.bind_ok (Step.onSecond_apply wrote)
    have content := Arena.load_itemContent (holds.lies (Heap.put_self ..))
    rcases refresh_refilled shows found holds v sees.header with
      ⟨u, walked, _, readable⟩ | ⟨_, y, u, lost, walked, _⟩
    · obtain ⟨h, decoded⟩ := readable listed
      refine ⟨u, b, ?_, content, generation⟩
      rw [written, reading_apply walked, decoded]
      rfl
    · refine ⟨u, b, ?_, content, generation⟩
      rw [written, reading_apply walked, lost]
      rfl

theorem setContentAt_failed (shows : a.Shows p) (sees : p.Sees v) {index : Nat}
    (failed : setContentAt index content (v, a) = (.error e, (u, b))) :
    ∃ target w, a.HasAsItem target ∧ p.Sees w ∧ w.header = v.header ∧
      w.FailedWrite a target content e u b := by
  obtain ⟨⟨sees_w, header⟩, issued⟩ := item_endsWith shows sees index
  obtain ⟨result, w, ran⟩ : ∃ result w, ListView.item a index v = (result, w) := ⟨_, _, rfl⟩
  have looked := reading_apply (x := fun a => ListView.item a index) ran
  rw [ran] at sees_w header issued
  cases result with
  | error y =>
    have nothing : a.HasAsItem .none := by
      intro kind
      cases kind
    cases (Step.bind_error looked).symm.trans failed
    exact ⟨.none, u, nothing, sees_w, header, .unchanged⟩
  | ok target =>
    have written := (Step.bind_ok looked).symm.trans failed
    exact ⟨target, w, hasAsItem_of_issued shows (issued target rfl), sees_w, header,
      setContent_failed shows sees_w written⟩

theorem readable_of_sees (shows : a.Shows p) (sees : p.Sees v) : (ensureFresh a v).1 = .ok () := by
  obtain ⟨w, fresh, _⟩ := ensureFresh_sees shows sees
  rw [fresh]

/-- How writes of contents through a view fail. -/
structure ContentWrites (v : ListView) (a : Arena) : Prop where
  setContent : ∀ item content e u b, setContent item content (v, a) = (.error e, (u, b)) →
    v.FailedWrite a item content e u b ∧ (a.HasAsItem item → a.Has content → u = v ∧ b = a)
  setContentAt : ∀ index content e u b, setContentAt index content (v, a) = (.error e, (u, b)) →
    ∃ (target : Handle) (w : ListView), w.header = v.header ∧ a.HasAsItem target ∧
      w.FailedWrite a target content e u b ∧
      (a.Has content → b = a ∧ u.header = v.header ∧ (ensureFresh a u).1 = .ok ())
  decides : ∀ item (d : Descriptor) es f, item.kind = .listItem → a.HasAsItem item →
    a.Represents v.header.addr es → f ∈ es → f.item = item.addr → d.kind ≠ .none →
    ∃ u b, ListView.setContent item (.stored d) (v, a) =
        ((b.decode d.addr).map fun _ => (), (u, b)) ∧
      b.loadField Addr item.addr .itemContent = .ok d.addr ∧ b.generation = a.generation + 1

theorem contentWrites_of_sees (shows : a.Shows p) (sees : p.Sees v) : v.ContentWrites a := by
  constructor
  · intro item content e u b failed
    have left := setContent_failed shows sees failed
    exact ⟨left, left.same⟩
  · intro index content e u b failed
    obtain ⟨target, w, here, sees_w, header, left⟩ := setContentAt_failed shows sees failed
    refine ⟨target, w, header, here, left, ?_⟩
    intro has
    obtain ⟨rfl, rfl⟩ := left.same here has
    exact ⟨rfl, header, readable_of_sees shows sees_w⟩
  · intro item d es f kind here represents member same named
    rw [represents.eq_lists shows] at member
    exact setContent_decides shows sees kind here ⟨f, member, same⟩ named

end ListView

namespace ObjectView

variable {a b : Arena} {p : Picture} {o u : ObjectView} {item content : Handle} {e : MemoryError}

theorem setSlot_failed (shows : a.Shows p) (sees : p.SeesObject o)
    (failed : setSlot item content (o, a) = (.error e, (u, b))) :
    ∃ w, u = { o with values := w } ∧ o.values.FailedWrite a item content e w b := by
  obtain ⟨result, ⟨w, c⟩, ran⟩ :
    ∃ result t, ListView.setContent item content (o.values, a) = (result, t) := ⟨_, _, rfl⟩
  cases (changingValues_apply ran).symm.trans failed
  exact ⟨w, rfl, ListView.setContent_failed shows sees.values ran⟩

theorem set_failed (shows : a.Shows p) (sees : p.SeesObject o) {key : String}
    (failed : set key content (o, a) = (.error e, (u, b))) :
    ∃ (target : Handle) (w : ObjectView), a.HasAsItem target ∧ p.SeesObject w ∧
      w.header = o.header ∧ w.values.header = o.values.header ∧
      u = { w with values := u.values } ∧ w.values.FailedWrite a target content e u.values b := by
  obtain ⟨⟨sees_w, header⟩, _⟩ := position_endsWith shows sees key
  have values := (position_apply a key o).2.2
  obtain ⟨result, w, ran⟩ : ∃ result w, position a key o = (result, w) := ⟨_, _, rfl⟩
  have looked := reading_apply (x := fun a => position a key) ran
  rw [ran] at sees_w header values
  cases result with
  | error y =>
    have nothing : a.HasAsItem .none := by
      intro kind
      cases kind
    cases (Step.bind_error looked).symm.trans failed
    exact ⟨.none, u, nothing, sees_w, header, by rw [values], rfl, .unchanged⟩
  | ok index =>
    obtain ⟨result, ⟨t, c⟩, wrote⟩ :
      ∃ result t, ListView.setContentAt index content (w.values, a) = (result, t) := ⟨_, _, rfl⟩
    cases ((Step.bind_ok looked).trans (changingValues_apply wrote)).symm.trans failed
    obtain ⟨target, v, here, sees_v, same, left⟩ :=
      ListView.setContentAt_failed shows sees_w.values wrote
    refine ⟨target, { w with values := v }, here, ⟨?_, sees_w.named, sees_w.keys, sees_v⟩, header,
      by rw [same, values], rfl, left⟩
    rw [same]
    exact sees_w.cell

/-- How writes of slots through a view fail. -/
structure ContentWrites (o : ObjectView) (a : Arena) : Prop where
  setSlot : ∀ item content e u b, setSlot item content (o, a) = (.error e, (u, b)) →
    ∃ w, u = { o with values := w } ∧ o.values.FailedWrite a item content e w b ∧
      (a.HasAsItem item → a.Has content → u = o ∧ b = a)
  set : ∀ key content e u b, set key content (o, a) = (.error e, (u, b)) →
    ∃ (target : Handle) (w : ListView), w.header = o.values.header ∧ a.HasAsItem target ∧
      w.FailedWrite a target content e u.values b ∧
      (a.Has content → b = a ∧ u.header = o.header ∧
        (ListView.ensureFresh a u.keys).1 = .ok () ∧ (ListView.ensureFresh a u.values).1 = .ok ())

theorem contentWrites_of_sees (shows : a.Shows p) (sees : p.SeesObject o) : o.ContentWrites a := by
  constructor
  · intro item content e u b failed
    obtain ⟨w, rfl, left⟩ := setSlot_failed shows sees failed
    refine ⟨w, rfl, left, ?_⟩
    intro here has
    obtain ⟨rfl, rfl⟩ := left.same here has
    exact ⟨rfl, rfl⟩
  · intro key content e u b failed
    obtain ⟨target, w, here, sees_w, header, values, rest, left⟩ := set_failed shows sees failed
    refine ⟨target, w.values, values, here, left, ?_⟩
    intro has
    obtain ⟨same, rfl⟩ := left.same here has
    rw [same] at rest
    subst rest
    exact ⟨rfl, header, ListView.readable_of_sees shows sees_w.keys,
      ListView.readable_of_sees shows sees_w.values⟩

end ObjectView

namespace Statement

/-- Through every view that a program has kept writes of contents fail as described, wherever the
items and the contents are from. -/
theorem contentWrites_after (r : Registry T) (config : Config) (program : List Statement)
    (allowed : ∀ s ∈ program, s.command.isPublic = true) :
    (∀ name v, (after r config program).1.lists.find? name = some v →
      v.ContentWrites (after r config program).2) ∧
    ∀ name o, (after r config program).1.objects.find? name = some o →
      o.ContentWrites (after r config program).2 := by
  obtain ⟨p, shows, names, _⟩ := after_shows r config allowed
  constructor
  · intro name v view
    exact ListView.contentWrites_of_sees shows (names.lists name v view)
  · intro name o view
    exact ObjectView.contentWrites_of_sees shows (names.objects name o view)

theorem contentWrites_after_sample : ∃ v o,
    (after .empty ⟨64, none⟩ sample).1.lists.find? "list" = some v ∧
      (after .empty ⟨64, none⟩ sample).1.objects.find? "object" = some o ∧
      v.ContentWrites (after .empty ⟨64, none⟩ sample).2 ∧
      o.ContentWrites (after .empty ⟨64, none⟩ sample).2 := by
  have kept_list : ((after .empty ⟨64, none⟩ sample).1.lists.find? "list").isSome = true := by
    decide +kernel
  have kept_object : ((after .empty ⟨64, none⟩ sample).1.objects.find? "object").isSome = true := by
    decide +kernel
  obtain ⟨v, view⟩ := Option.isSome_iff_exists.mp kept_list
  obtain ⟨o, object⟩ := Option.isSome_iff_exists.mp kept_object
  obtain ⟨lists, objects⟩ := contentWrites_after .empty ⟨64, none⟩ sample (by decide)
  exact ⟨v, o, view, object, lists "list" v view, objects "object" o object⟩

end Statement

namespace Session

/-- A list in the first arena, and an item of the second at an address that the first has not. -/
def strangeSample : Session :=
  after ⟨#[.empty ⟨64, none⟩], .empty, .empty⟩
    [⟨0, .statement ⟨some "list", .listCreate⟩⟩,
     ⟨0, .statement ⟨some "item", .onList "list" .appendEmpty⟩⟩,
     ⟨0, .newArena ⟨64, none⟩⟩,
     ⟨1, .statement ⟨none, .create (.string (String.ofList (List.replicate 60 'x')))⟩⟩,
     ⟨1, .statement ⟨some "other", .listCreate⟩⟩,
     ⟨1, .statement ⟨some "strange", .onList "other" .appendEmpty⟩⟩]

/-- A request through the view of the list in the first arena. -/
def ofList (command : ListCommand) : Request := ⟨0, .statement ⟨none, .onList "list" command⟩⟩

/-- A number for the strange item is refused and leaves a double behind. The strange item for a
content is refused too, and its list can no longer be read. -/
theorem strangeSample_changed :
    let promotes := strangeSample.step (ofList (.setContent (.named "strange") (.immediate 7)))
    let dangles := strangeSample.step (ofList (.setContent (.named "item") (.named "strange")))
    promotes.1.isOk = false ∧ dangles.1.isOk = false ∧
      strangeSample.arenas[0]?.map (fun a => (a.bytesInUse, a.generation)) = some (38, 1) ∧
      promotes.2.arenas[0]?.map (fun a => (a.bytesInUse, a.generation)) = some (47, 1) ∧
      dangles.2.arenas[0]?.map (fun a => (a.bytesInUse, a.generation)) = some (38, 2) ∧
      (strangeSample.step (ofList .values)).1.isOk = true ∧
      (dangles.2.step (ofList .values)).1.isOk = false := by
  decide +kernel

end Session
end ValueArena
