import ValueArena.Proofs.Run.Objects
import ValueArena.Proofs.Run.Undisturbed

/-!
Objects with numbered keys. A round adds the next key, whose text is none of the earlier ones, so
that what it sets is the slot that came with the key; after any number of rounds every key is found
at its number.
-/
namespace ValueArena

variable {T : Type → Type → Type} [KeyMap T]

/-- An object with these keys that lies beside a picture, seen through an up-to-date view, after so
many writes. -/
structure ObjectView.Beside (p : Picture) (keys : List String) (writes : Nat) (a : Arena)
    (o : ObjectView) (q : Picture) : Prop where
  shows : a.Shows q
  sees : q.SeesObject o
  keeps : p.Extends q
  evolves : ∃ changes, changes.length = writes ∧ p.Evolves changes q
  further_keys : p.heap o.keys.header.addr = none
  further_values : p.heap o.values.header.addr = none
  keys_current : o.keys.Current a q
  values_view : o.values = q.view o.values.header
  texts : q.heap.Texts (q.lists o.keys.header.addr) keys

namespace ObjectView

variable {a b : Arena} {p q : Picture} {o u : ObjectView} {keys : List String} {key : String}
  {writes : Nat} {item : Handle}

/-- It goes on lying beside the picture whatever is written to its own lists. -/
theorem Beside.write (beside : Beside p keys writes a o q) (formed : p.heap.Formed p.lists)
    {r : Picture} {changes : List Change} (writing : q.Evolves changes r) (shows_b : b.Shows r)
    (sees_u : r.SeesObject u) (header : u.header = o.header)
    (spares : ∀ change ∈ changes, change.Spares p.heap)
    (stays : ∀ x c, p.heap x = some c → q.heap x = some c → r.heap x = some c)
    (current : u.keys.Current b r) (view : u.values = r.view o.values.header)
    {names : List String} (texts : r.heap.Texts (r.lists o.keys.header.addr) names) :
    Beside p names (writes + changes.length) b u r := by
  obtain ⟨earlier, length, evolves⟩ := beside.evolves
  have values_header : u.values.header = o.values.header := by rw [view]; rfl
  obtain ⟨same_keys, _⟩ := Command.header_lists sees_u (congrArg Descriptor.addr header)
    (writing.grows.kept beside.sees.cell rfl)
  refine ⟨shows_b, sees_u, beside.keeps.evolves formed writing spares stays,
    ⟨_, ?_, evolves.trans writing⟩, ?_, ?_, current, ?_, ?_⟩
  · rw [List.length_append, length]
  · rw [same_keys]
    exact beside.further_keys
  · rw [values_header]
    exact beside.further_values
  · rw [values_header]
    exact view
  · rw [same_keys]
    exact texts

theorem Beside.addKey (beside : Beside p keys writes a o q) (formed : p.heap.Formed p.lists)
    (added : addKey key (o, a) = (.ok item, (u, b))) :
    ∃ r, Beside p (keys ++ [key]) (writes + 2) b u r ∧ q.KeepsPlain r ∧ p.heap item.addr = none ∧
      r.lists u.values.header.addr = q.lists o.values.header.addr ++ [⟨item.addr, .null⟩] := by
  have ⟨shows, sees, keeps, _, further_keys, further_values, current, view, texts⟩ := beside
  rcases addKey_cases shows sees key with
    ⟨_, _, _, _, _, failed, _⟩ | ⟨item', u', b', r, added', adds⟩
  · cases added.symm.trans failed
  · cases added.symm.trans added'
    obtain ⟨e, entry, writing⟩ := adds.entry
    have differ := (shows.formed.object _ _ _ sees.cell).2.2
    have at_keys : r.lists o.keys.header.addr = q.lists o.keys.header.addr ++ [e] := by
      rw [writing.lists]
      simp [Change.on, differ]
    have values_view := adds.values_view view
    have item_fresh := keeps.fresh adds.fresh
    refine ⟨r, beside.write formed writing adds.shows adds.sees adds.header ?_ ?_
      (adds.keys_view current) values_view ?_, ?_, item_fresh, ?_⟩
    · intro change member
      rcases List.mem_cons.mp member with rfl | member
      · exact ⟨further_keys, keeps.fresh entry.item_fresh⟩
      · rw [List.mem_singleton.mp member]
        exact ⟨further_values, item_fresh⟩
    · intro x c found found_q
      exact adds.stays x c found_q (keeps.apart further_keys found)
        (keeps.apart further_values found)
    · rw [at_keys]
      exact (texts.grows writing.grows).append entry.text
    · intro x content found
      exact adds.stays x _ found (Picture.apart_of_plain shows.formed sees.keys.header found)
        (Picture.apart_of_plain shows.formed sees.values.header found)
    · rw [values_view, writing.lists]
      simp [Change.on, Ne.symm differ, Picture.view]

theorem Beside.create (beside : Beside p keys writes a o q) (formed : p.heap.Formed p.lists)
    {content : Content} {h : Handle} (creates : Arena.Creates a q.heap (.plain content) h b) :
    Beside p keys writes b o (q.add h.addr (.plain content) b.store.room) := by
  have ⟨shows, sees, _, _, _, _, current, view, texts⟩ := beside
  obtain ⟨shows_b, quiet⟩ := shows.create creates
  refine beside.write formed quiet shows_b
    (sees_evolves sees quiet shows.formed shows_b.formed.null) rfl nofun
    (fun _ _ _ found => Heap.put_fresh creates.fresh found _) (current.quiet shows shows_b quiet) ?_
    (texts.grows quiet.grows)
  rw [quiet.view_eq shows.formed shows_b.formed.null]
  exact view

/-- The slot at the first place of a key takes a plain value. -/
theorem Beside.set (beside : Beside p keys writes a o q) (formed : p.heap.Formed p.lists)
    {i : Nat} {e : Entry} (first : keys.idxOf? key = some i)
    (at_i : (q.lists o.values.header.addr)[i]? = some e) (further : p.heap e.item = none)
    {x : Addr} {content : Content} (found : q.heap x = some (.plain content))
    (some_kind : content.kind ≠ .none)
    (set : ObjectView.set key (q.heap.handleAt x) (o, a) = (.ok (), (u, b))) :
    ∃ r, Beside p keys (writes + 1) b u r ∧ q.KeepsPlain r ∧
      r.lists u.values.header.addr = (q.lists o.values.header.addr).set i ⟨e.item, x⟩ := by
  have ⟨shows, sees, _, _, _, _, current, view, texts⟩ := beside
  rcases set_cases shows sees key (Heap.issued_handleAt shows.formed.null x) with
    ⟨_, _, failed, _⟩ | ⟨target, kept, b', r, u', done, refills, sees_u, header, slot, values_view,
      keys_current⟩
  · cases set.symm.trans failed
  · cases set.symm.trans done
    have answer := (answers_of_texts shows sees current (fun _ => view) texts).slot key
    rw [slot, first] at answer
    simp only [at_i, ListView.decode_item shows at_i] at answer
    have at_target : target.addr = e.item := by
      rw [Except.ok.inj answer]
      exact ListView.handleAt_item_addr shows at_i
    have at_x : kept.addr = x := by
      have keeps := refills.keeps
      rw [Heap.handleAt_of_some found] at keeps
      exact congrArg Handle.addr (keeps.trans (if_neg some_kind))
    have writing := refills.evolves
    rw [at_target, at_x] at writing
    have differ := (shows.formed.object _ _ _ sees.cell).2.2
    have others : ∀ f ∈ q.lists o.keys.header.addr, f.item ≠ e.item := by
      intro f member same
      obtain ⟨j, at_j⟩ := List.getElem?_of_mem member
      exact differ (shows.formed.apart _ j f _ i e at_j at_i same).1
    have at_keys : r.lists o.keys.header.addr = q.lists o.keys.header.addr := by
      rw [writing.lists]
      exact on_replace_other others o.keys.header.addr x
    have item_cell := shows.formed.item _ i e at_i
    refine ⟨r, beside.write formed writing refills.shows sees_u header ?_ ?_ (keys_current current)
      values_view ?_, ?_, ?_⟩
    · intro change member
      rw [List.mem_singleton.mp member]
      exact further
    · intro y c before found_q
      exact refills.stays y c found_q (at_target ▸ Heap.ne_of_fresh before further)
    · rw [at_keys]
      exact texts.grows writing.grows
    · intro y c found_q
      exact refills.stays y _ found_q (at_target ▸ Heap.ne_of_cells found_q item_cell nofun)
    · rw [values_view, writing.lists]
      exact Command.map_refill_eq_set shows at_i x

end ObjectView

namespace Samples

theorem numberedKey_injective : Function.Injective numberedKey := by
  intro i j same
  have digits : Nat.repr i = Nat.repr j := (String.append_right_inj "k").mp same
  have read : ∀ n, Nat.ofDigitChars 10 (Nat.repr n).toList 0 = n := fun n => by
    rw [Nat.toList_repr, Nat.ofDigitChars_ten_toDigits]
  rw [← read i, digits, read]

def numberedKeys (count : Nat) : List String := (List.range count).map numberedKey

theorem length_numberedKeys (count : Nat) : (numberedKeys count).length = count := by
  rw [numberedKeys, List.length_map, List.length_range]

theorem numberedKeys_succ (count : Nat) :
    numberedKeys (count + 1) = numberedKeys count ++ [numberedKey count] := by
  rw [numberedKeys, List.range_succ, List.map_append]
  rfl

theorem getElem?_numberedKeys {j count : Nat} (less : j < count) :
    (numberedKeys count)[j]? = some (numberedKey j) := by
  rw [numberedKeys, List.getElem?_map, List.getElem?_range less]
  rfl

/-- No key has the text of an earlier one. -/
theorem idxOf?_numberedKeys {j count : Nat} (less : j < count) :
    (numberedKeys count).idxOf? (numberedKey j) = some j := by
  refine List.idxOf?_eq_some_iff.mpr ⟨by rw [length_numberedKeys]; exact less, ?_, ?_⟩
  · simp [numberedKeys]
  · intro i earlier same
    simp only [numberedKeys, List.getElem_map, List.getElem_range] at same
    exact Nat.ne_of_lt earlier (numberedKey_injective same)

theorem mem_numberedKeys {key : String} {count : Nat} :
    key ∈ numberedKeys count ↔ ∃ j < count, numberedKey j = key := by
  simp [numberedKeys]

/-- The entries hold the numbers from zero on, each a double of its own that `p` does not have. -/
structure NumberEntries (p : Picture) (count : Nat) (es : List Entry) (q : Picture) : Prop where
  numbers : (es.map fun e => q.heap e.content) =
    (List.range count).map fun j : Nat => some (.plain (.double (.ofInt j)))
  fresh : ∀ e ∈ es, p.heap e.content = none
  apart : (es.map Entry.content).Nodup

variable {a b : Arena} {p q r : Picture} {o u : ObjectView} {count : Nat} {es : List Entry}

theorem NumberEntries.length (entries : NumberEntries p count es q) : es.length = count := by
  have same := congrArg List.length entries.numbers
  rwa [List.length_map, List.length_map, List.length_range] at same

theorem NumberEntries.number (entries : NumberEntries p count es q) {j : Nat} {e : Entry}
    (at_j : es[j]? = some e) : q.heap e.content = some (.plain (.double (.ofInt j))) := by
  have same := congrArg (·[j]?) entries.numbers
  have less : j < count := entries.length ▸ (List.getElem?_eq_some_iff.mp at_j).1
  simp only [List.getElem?_map, at_j, Option.map_some, List.getElem?_range less] at same
  exact Option.some.inj same

theorem NumberEntries.keepsPlain (entries : NumberEntries p count es q) (plain : q.KeepsPlain r) :
    NumberEntries p count es r := by
  refine ⟨Eq.trans (List.map_congr_left ?_) entries.numbers, entries.fresh, entries.apart⟩
  intro e member
  obtain ⟨j, at_j⟩ := List.getElem?_of_mem member
  have found := entries.number at_j
  rw [found, plain _ _ found]

/-- The next number, in a double that is not there yet. -/
theorem NumberEntries.append (entries : NumberEntries p count es q) (plain : q.KeepsPlain r)
    {e : Entry} (number : r.heap e.content = some (.plain (.double (.ofInt count))))
    (fresh : p.heap e.content = none) (unused : q.heap e.content = none) :
    NumberEntries p (count + 1) (es ++ [e]) r := by
  constructor
  · rw [List.range_succ, List.map_append, List.map_append, (entries.keepsPlain plain).numbers,
      List.map_singleton, List.map_singleton, number]
  · intro f member
    rcases List.mem_append.mp member with old | new
    · exact entries.fresh f old
    · rw [List.mem_singleton.mp new]
      exact fresh
  · rw [List.map_append, List.map_singleton]
    refine List.nodup_append.mpr ⟨entries.apart, List.pairwise_singleton _ _, ?_⟩
    intro x member y last same
    obtain ⟨f, old, rfl⟩ := List.mem_map.mp member
    obtain ⟨j, at_j⟩ := List.getElem?_of_mem old
    rw [List.mem_singleton.mp last] at same
    exact Heap.ne_of_fresh (entries.number at_j) unused same

/-- After so many rounds. -/
structure Rounds (p : Picture) (count : Nat) (a : Arena) (o : ObjectView) (q : Picture) :
    Prop where
  beside : ObjectView.Beside p (numberedKeys count) (3 * count) a o q
  entries : NumberEntries p count (q.lists o.values.header.addr) q

/-- A round adds the next key and puts the next number into its slot. -/
theorem Rounds.addEntry (rounds : Rounds p count a o q) (formed : p.heap.Formed p.lists)
    (ran : addEntry (numberedKey count) (Arena.createDouble (.ofInt count)) (o, a) =
      (.ok (), (u, b))) : ∃ r, Rounds p (count + 1) b u r := by
  rw [Samples.addEntry, Step.bind_eq_ok_iff] at ran
  obtain ⟨item, ⟨o₁, a₁⟩, added, ran⟩ := ran
  obtain ⟨h, ⟨o₂, a₂⟩, made, set⟩ := Step.bind_eq_ok_iff.mp ran
  obtain ⟨q₁, beside₁, plain₁, further, slots⟩ := rounds.beside.addKey formed added
  rw [← numberedKeys_succ] at beside₁
  rcases Arena.create_cases beside₁.shows.holds.bounded (.double (.ofInt count)) with
    ⟨_, _, failed, _⟩ | ⟨h', a', made', adds⟩
  · cases made.symm.trans (Step.onSecond_apply failed)
  · cases made.symm.trans (Step.onSecond_apply made')
    have creates := adds.creates beside₁.shows.holds
    have beside₂ := beside₁.create formed creates
    have at_count : (q₁.lists o₁.values.header.addr)[count]? = some ⟨item.addr, .null⟩ := by
      rw [slots, ← rounds.entries.length]
      exact List.getElem?_concat_length
    rw [creates.handle_eq] at set
    obtain ⟨r, beside, plain, last⟩ := beside₂.set formed
      (idxOf?_numberedKeys (Nat.lt_succ_self count)) at_count further (Heap.put_self ..) nofun set
    refine ⟨r, beside, ?_⟩
    have filled : (q₁.lists o₁.values.header.addr).set count ⟨item.addr, h.addr⟩ =
        q.lists o.values.header.addr ++ [⟨item.addr, h.addr⟩] := by
      rw [slots, ← rounds.entries.length]
      simp
    rw [last]
    change NumberEntries p (count + 1) ((q₁.lists o₁.values.header.addr).set count _) r
    rw [filled]
    have plain₂ := Picture.keepsPlain_add creates a₂.store.room
    exact (rounds.entries.keepsPlain plain₁).append (fun _ _ found => plain _ _ (plain₂ _ _ found))
      (plain _ _ (Heap.put_self ..)) (beside₁.keeps.fresh creates.fresh) creates.fresh

theorem Rounds.addNumbered {index : Nat} (rounds : Rounds p index a o q)
    (formed : p.heap.Formed p.lists) (ran : addNumbered count index (o, a) = (.ok (), (u, b))) :
    ∃ r, Rounds p (index + count) b u r := by
  -- On the rounds that are left, from whatever the earlier ones made.
  induction count generalizing index a o q with
  | zero =>
    cases ran
    exact ⟨q, rounds⟩
  | succ count ih =>
    rw [Samples.addNumbered, Step.bind_eq_ok_iff] at ran
    obtain ⟨_, ⟨o₁, a₁⟩, added, rest⟩ := ran
    obtain ⟨q₁, next⟩ := rounds.addEntry formed added
    rw [Nat.add_comm count, ← Nat.add_assoc]
    exact ih next rest

/-- A new object has no keys, and its lists are new as well. -/
theorem rounds_of_created (shows : a.Shows p) (created : ObjectView.create a = (.ok o, b)) :
    ∃ q, Rounds p 0 b o q := by
  obtain ⟨h, b', made, viewed⟩ := Step.bind_eq_ok_iff.mp created
  obtain ⟨q, shows_b, evolves, fits⟩ := Arena.quietly_createObject shows
  rw [made] at shows_b fits
  obtain ⟨issued, ⟨keys, values, found, fresh_keys, fresh_values⟩, cells⟩ := fits h rfl
  rw [Step.view_apply] at viewed
  obtain ⟨opened, rfl⟩ := Prod.mk.inj viewed
  cases required : h.require .object with
  | error e =>
    rw [ObjectView.ofHandle, required] at opened
    cases opened
  | ok header =>
    obtain ⟨k, v, opened', sees⟩ := ObjectView.ofHandle_of_require shows_b issued required
    obtain ⟨_, _, _, rfl, _⟩ := issued.require required
    obtain rfl := Except.ok.inj (opened'.symm.trans opened)
    have empty : ∀ l, p.heap l = none → q.lists l = [] := by
      intro l fresh
      rw [evolves.lists_eq]
      apply shows.formed.unlisted
      intro list
      obtain ⟨_, _, _, at_l⟩ := list
      rw [fresh] at at_l
      cases at_l
    obtain ⟨at_keys, at_values⟩ := Command.header_lists sees rfl found
    rw [← at_keys] at fresh_keys
    rw [← at_values] at fresh_values
    have keeps := (Picture.Extends.refl shows.formed).quiet shows.formed evolves
      fun x c found _ => cells x c found
    refine ⟨q, ⟨shows_b, sees, keeps, ⟨[], rfl, evolves⟩, fresh_keys, fresh_values, fun _ => rfl,
      rfl, ?_⟩, ?_⟩
    · rw [empty _ fresh_keys]
      rfl
    · rw [empty _ fresh_values]
      exact ⟨rfl, List.forall_mem_nil _, .nil⟩

theorem rounds_of_numberedObject (shows : a.Shows p)
    (made : numberedObject count a = (.ok o, b)) : ∃ q, Rounds p count b o q := by
  obtain ⟨u, a₁, created, rest⟩ := Step.bind_eq_ok_iff.mp made
  obtain ⟨⟨_, v⟩, a₂, filled, last⟩ := Step.bind_eq_ok_iff.mp rest
  obtain ⟨same, rfl⟩ := Prod.mk.inj last
  obtain rfl := Except.ok.inj same
  obtain ⟨q, rounds⟩ := rounds_of_created shows created
  have rounds := rounds.addNumbered shows.formed (Step.starting_eq_ok_iff.mp filled)
  rwa [Nat.zero_add] at rounds

end Samples

/-- The view of an object that was made of nothing: under the text of each number below `count`, and
under no other text, is the number, in a double of its own. -/
structure ObjectView.Numbered (o : ObjectView) (count : Nat) (a b : Arena) : Prop where
  size : (o.size b).map UInt32.toNat = .ok count
  key : ∀ j < count, ∃ h, (ListView.get b j o.keys).1 = .ok h ∧ h.kind = .string ∧
    b.readString h = .ok (Samples.numberedKey j)
  indexOf : ∀ j < count, (ObjectView.indexOf b (Samples.numberedKey j) o).1 = .ok (some j)
  hasKey : ∀ key, (ObjectView.hasKey b key o).1 =
    .ok (decide (∃ j < count, Samples.numberedKey j = key))
  values : ∃ values : List Handle, values.length = count ∧ (values.map Handle.addr).Nodup ∧
    ∀ j h, values[j]? = some h → (ObjectView.get b (Samples.numberedKey j) o).1 = .ok h ∧
      h.kind = .double ∧ b.readDouble h = .ok (.ofInt j) ∧ a.Makes b h

theorem Samples.Rounds.numbered {a b : Arena} {p q : Picture} {o : ObjectView} {count : Nat}
    (rounds : Rounds p count b o q) (shows : a.Shows p) : o.Numbered count a b := by
  obtain ⟨⟨shows_b, sees, _, _, _, _, current, view, texts⟩, entries⟩ := rounds
  have answers := ObjectView.answers_of_texts shows_b sees current (fun _ => view) texts
  constructor
  · rw [answers.size, length_numberedKeys]
  · intro j less
    exact answers.key j _ (getElem?_numberedKeys less)
  · intro j less
    rw [answers.indexOf, idxOf?_numberedKeys less]
  · intro key
    rw [answers.hasKey]
    simp only [mem_numberedKeys]
  · refine ⟨(q.lists o.values.header.addr).map fun e => q.heap.handleAt e.content, ?_, ?_, ?_⟩
    · rw [List.length_map, entries.length]
    · rw [List.map_map]
      refine Eq.mpr (congrArg List.Nodup (List.map_congr_left fun e member => ?_)) entries.apart
      obtain ⟨j, at_j⟩ := List.getElem?_of_mem member
      rw [Function.comp_apply, Heap.handleAt_of_some (entries.number at_j)]
      rfl
    · intro j h at_h
      rw [List.getElem?_map] at at_h
      obtain ⟨e, at_j, rfl⟩ := Option.map_eq_some_iff.mp at_h
      have found := entries.number at_j
      have less : j < count := entries.length ▸ (List.getElem?_eq_some_iff.mp at_j).1
      have answer := answers.get (numberedKey j)
      rw [idxOf?_numberedKeys less] at answer
      simp only [at_j] at answer
      have fresh := entries.fresh e (List.mem_of_getElem? at_j)
      have addr : (q.heap.handleAt e.content).addr = e.content := by
        rw [Heap.handleAt_of_some found]
        rfl
      have makes : a.Makes b (q.heap.handleAt e.content) :=
        shows.makes shows_b (by rw [addr]; exact fresh) (by rw [addr]; exact found) (by rw [addr])
      refine ⟨answer.trans (Arena.decode_of_holds shows_b.holds found), ?_,
        Arena.readDouble_of_holds shows_b.holds found, makes⟩
      rw [Heap.handleAt_of_some found]
      rfl

namespace Statement

/-- A numbered object that is made in whatever state a program leaves has its keys at their numbers,
and nothing that was there is touched. -/
theorem numberedObject_after (r : Registry T) (config : Config) (program : List Statement)
    (count : Nat) (o : ObjectView) (b : Arena)
    (allowed : ∀ s ∈ program, s.command.isPublic = true)
    (made : Samples.numberedObject count (after r config program).2 = (.ok o, b)) :
    o.Numbered count (after r config program).2 b ∧
      (after r config program).1.Undisturbed (after r config program).2 b
        (listWrites r program (.empty, .empty config) + 3 * count) := by
  obtain ⟨p, shows, names, writes⟩ := after_shows r config allowed
  obtain ⟨q, rounds⟩ := Samples.rounds_of_numberedObject shows made
  refine ⟨rounds.numbered shows, ?_⟩
  obtain ⟨⟨shows_b, _, keeps, ⟨changes, length, evolves⟩, _⟩, _⟩ := rounds
  have count_eq : q.writes = p.writes + 3 * count := evolves.writes.trans (by rw [length])
  rw [← writes, ← count_eq]
  exact Names.undisturbed_of_extends keeps shows shows_b names
    (names.evolves evolves shows.formed shows_b.formed.null) (by omega)

/-- Two keys, in an arena that has a list and an object already. -/
theorem numberedObject_after_sample : ∃ o b,
    Samples.numberedObject 2 (after .empty ⟨64, none⟩ sample).2 = (.ok o, b) ∧
      o.Numbered 2 (after .empty ⟨64, none⟩ sample).2 b := by
  have succeeds : (Samples.numberedObject 2 (after .empty ⟨64, none⟩ sample).2).1.isOk = true := by
    decide +kernel
  cases made : Samples.numberedObject 2 (after .empty ⟨64, none⟩ sample).2 with
  | mk result b =>
    rw [made] at succeeds
    cases result with
    | error e => cases succeeds
    | ok o =>
      obtain ⟨numbered, _⟩ :=
        numberedObject_after .empty ⟨64, none⟩ sample 2 o b (by decide) made
      exact ⟨o, b, rfl, numbered⟩

end Statement
end ValueArena
