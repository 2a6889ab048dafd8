import ValueArena.Arena.Arithmetic
import ValueArena.Arena.Assignment
import ValueArena.Arena.Writing
import ValueArena.Collection.ObjectView
import ValueArena.Program.Samples
import ValueArena.Proofs.Calls.Basic

/-!
The operations on arenas, lists and objects, one after the other. Each reaches memory through calls
alone; a read never sees the ceiling.
-/
namespace ValueArena

open PageStore

namespace Keeper

/-- A view of some kind beside its arena. -/
def views : Keeper MemoryError (τ × Arena) := beside MemoryError.lacksMemory

end Keeper

namespace ByCalls

theorem onStore {x : Step MemoryError PageStore α} (inner : ByCalls .stores x) :
    ByCalls .arenas (Arena.onStore x) :=
  within inner (fun _ lacks => lacks) (fun _ => rfl) (fun _ _ => rfl) (fun _ _ => rfl)
    fun _ _ _ => rfl

theorem onSecond {lacks : ε → Prop} {x : Step ε Arena α}
    (inner : ByCalls ⟨lacks, Arena.store, Arena.under⟩ x) :
    ByCalls (.beside lacks (τ := τ)) (.onSecond x) :=
  within inner (fun _ lacks => lacks) (fun _ => rfl) (fun _ _ => rfl) (fun _ _ => rfl)
    fun _ _ _ => rfl

/-- An operation that is given another state beside the arena to start from. -/
theorem starting {t : τ} {x : Step MemoryError (τ × Arena) α} (inner : ByCalls .views x) :
    ByCalls .arenas (.starting t x) where
  calls := by
    intro a
    obtain ⟨cs, positive, same⟩ := inner.calls (t, a)
    refine ⟨cs, positive, ?_⟩
    obtain ⟨result, u, b, ran⟩ : ∃ result u b, x (t, a) = (result, u, b) := ⟨_, _, _, rfl⟩
    rw [ran] at same
    cases result <;>
      simpa only [Step.starting, ran, Keeper.arenas, Keeper.views, Keeper.beside] using same
  ceiling := by
    intro a high above
    obtain ⟨result, u, b, ran⟩ : ∃ result u b, x (t, a) = (result, u, b) := ⟨_, _, _, rfl⟩
    rcases inner.ceiling (t, a) high above with ⟨e, lacks, failed⟩ | alike
    · refine .inl ⟨e, lacks, ?_⟩
      rw [ran] at failed
      obtain rfl : result = .error e := failed
      simp only [Step.starting, ran]
    · rw [ran] at alike
      refine .inr ?_
      have alike : x (t, a.under high) = (result, u, b.under high) := alike
      cases result <;> simp only [Step.starting, ran, alike, Keeper.arenas]

/-! Arenas. -/

theorem writing [FixedWidth α] (addr : Addr) (v : α) : ByCalls .arenas (Arena.write addr v) :=
  onStore (write (.ok addr) (FixedWidth.encode v))

theorem writingField [FixedWidth α] (value : Addr) (f : Field) (v : α) :
    ByCalls .arenas (Arena.writeField value f v) :=
  onStore (write (f.of value) (FixedWidth.encode v))

theorem storeText (value : Addr) (text : String) :
    ByCalls .stores (·.storeText value text) := by
  by_cases short : (Utf8.encode text).length ≤ 0xFFFFFFFF
  · have length := write (Field.stringLength.of value)
      (FixedWidth.encode (UInt32.ofNat (Utf8.encode text).length))
    refine congr ?_ (bind length fun _ => write (Field.stringBytes.of value) (Utf8.encode text))
    intro s
    unfold PageStore.storeText
    rw [if_pos short]
    simp only [Bind.bind, Step.update, storeField, store]
    cases (Field.stringLength.of value).bind fun addr => s.write addr _ with
    | error e => rfl
    | ok t =>
      dsimp only
      cases (Field.stringBytes.of value).bind fun addr => t.write addr (Utf8.encode text) <;> rfl
  · refine of_unchanged (f := fun s =>
      .error (.allocationFailed (Utf8.encode text).length s.reserved)) ?_ fun _ _ => rfl
    intro s
    unfold PageStore.storeText
    rw [if_neg short]

theorem allocate (kind : Kind) (size : UInt32) : ByCalls .arenas (Arena.allocate kind size) := by
  refine (onStore (reserve (by omega))).bind fun addr => ?_
  exact (writing addr kind.tag).returning

theorem createScalar [FixedWidth α] (kind : Kind) (v : α) :
    ByCalls .arenas (Arena.createScalar kind v) := by
  refine (allocate kind _).bind fun d => ?_
  exact (writing d.payload v).returning

theorem createDouble (v : Binary64) : ByCalls .arenas (Arena.createDouble v) := createScalar ..

theorem createString (text : String) : ByCalls .arenas (Arena.createString text) := by
  unfold Arena.createString
  dsimp only
  split
  · exact (allocate .string _).bind fun d => (onStore (storeText d.addr text)).returning
  · exact view fun _ _ => rfl

theorem createFunction (f : FunctionRef) : ByCalls .arenas (Arena.createFunction f) := by
  refine (allocate .function _).bind fun d => ?_
  refine (writingField d.addr _ f.library).bind fun _ => ?_
  exact (writingField d.addr _ f.index).returning

theorem create (content : Content) : ByCalls .arenas (Arena.create content) := by
  cases content with
  | none => exact (allocate .none 0).returning
  | string v => exact createString v
  | function v => exact createFunction v
  | _ => exact createScalar ..

theorem createList : ByCalls .arenas Arena.createList := by
  refine (allocate .list _).bind fun d => ?_
  refine (writingField d.addr _ Addr.null).bind fun _ => ?_
  refine (writingField d.addr _ Addr.null).bind fun _ => ?_
  exact (writingField d.addr _ (0 : UInt32)).returning

theorem createObject : ByCalls .arenas Arena.createObject := by
  refine createList.bind fun keys => ?_
  refine createList.bind fun values => ?_
  refine (allocate .object _).bind fun d => ?_
  refine (writingField d.addr _ keys.addr).bind fun _ => ?_
  exact (writingField d.addr _ values.addr).returning

theorem setPayload [FixedWidth α] (kind : Kind) (h : Handle) (v : α) :
    ByCalls .arenas (Arena.setPayload kind h v) :=
  bind (view fun _ _ => rfl) fun d => writing d.payload v

theorem apply (op : Operation) (target : Handle) (source : Source) :
    ByCalls .arenas (Arena.apply op target source) := by
  refine bind (view fun _ _ => rfl) fun d => ?_
  refine bind (view fun _ _ => rfl) fun _ => ?_
  refine bind (view fun _ _ => rfl) fun _ => ?_
  exact (writing d.payload _).returning

theorem number (unsupported : MemoryError) (ofLiteral : Binary64 → α)
    {read : Arena → Handle → Except MemoryError α} (blind : ∀ a high, read (a.under high) = read a)
    (source : Source) : ByCalls .arenas (Assignment.number unsupported ofLiteral read source) := by
  cases source with
  | number v => exact pure _
  | text v => exact fail _
  | handle h =>
    simp only [Assignment.number]
    split
    · exact view fun a high => congrFun (blind a high) h
    · exact fail _

theorem target (old : Handle) (source : Source) :
    ByCalls .arenas (Assignment.target old source) := by
  unfold Assignment.target
  split
  · cases source with
    | number v => exact createDouble v
    | text v => exact createString v
    | handle h =>
      dsimp only
      split
      · exact bind (view fun _ _ => rfl) fun v => createDouble v
      · split
        · exact pure _
        · exact fail _
  · exact (number _ _ (fun _ _ => rfl) source).returning
  · refine bind (view fun _ _ => rfl) fun d => ?_
    refine (number _ _ (fun _ _ => rfl) source).bind fun v => ?_
    exact (writing d.payload v).returning
  · refine bind (view fun _ _ => rfl) fun d => ?_
    refine (number _ _ (fun _ _ => rfl) source).bind fun v => ?_
    exact (writing d.payload v).returning
  · cases source with
    | number v => exact createString _
    | text v => exact createString v
    | handle h =>
      dsimp only
      split
      · exact bind (view fun _ _ => rfl) fun text => createString text
      · exact fail _
  · exact fail _

/-- An operation that is chosen by what stands beside the arena. -/
theorem each {x : τ → Step MemoryError (τ × Arena) α} (inner : ∀ t, ByCalls .views (x t)) :
    ByCalls .views fun s => x s.1 s where
  calls := fun s => (inner s.1).calls s
  ceiling := fun s => (inner s.1).ceiling s

theorem assign (source : Source) : ByCalls .views (ValueArena.assign source) := by
  have inner : ∀ old : Handle, ByCalls .views (do
      let new ← .onSecond (Assignment.target old source)
      .modify fun (s : Handle × Arena) => (new, s.2)) := fun old =>
    (onSecond (target old source)).bind fun _ => modify (fun _ => rfl) fun _ _ => rfl
  refine congr ?_ (each inner)
  intro s
  obtain ⟨old, a⟩ := s
  simp only [Bind.bind, Step.onSecond, Step.within, ValueArena.assign]
  obtain ⟨result, b, ran⟩ : ∃ result b, Assignment.target old source a = (result, b) :=
    ⟨_, _, rfl⟩
  cases result <;> simp only [ran, Step.modify]

/-! Lists. -/

/-- A check of a sequence of requests, which fails for want of memory. -/
theorem check (lens : List Nat) {refused : Arena → MemoryError}
    (lacks : ∀ a, (refused a).lacksMemory) :
    ByCalls .arenas (.view fun a =>
      if a.store.wouldFit lens then .ok () else .error (refused a)) where
  calls := fun a => ⟨[], List.not_mem_nil, rfl⟩
  ceiling := by
    intro a high above
    cases fits : a.store.wouldFit lens with
    | true =>
      have fits' : (Keeper.arenas.under high a).store.wouldFit lens = true :=
        wouldFit_under above fits
      exact .inr (by simp only [Step.view, fits, fits', ↓reduceIte])
    | false => exact .inl ⟨refused a, lacks a, by simp [Step.view, fits]⟩

theorem materialize (content : Handle) : ByCalls .arenas (Arena.materialize content) := by
  cases content with
  | immediate v => exact (createDouble _).returning
  | stored d => exact pure _

theorem linkItem (list item : Addr) : ByCalls .arenas (Arena.linkItem list item) := by
  refine bind (view fun _ _ => rfl) fun first => ?_
  dsimp only
  split
  · exact (writingField ..).bind fun _ => writingField ..
  · exact bind (view fun _ _ => rfl) fun last => (writingField ..).bind fun _ => writingField ..

theorem bumpGeneration : ByCalls .arenas Arena.bumpGeneration :=
  modify (fun _ => rfl) fun _ _ => rfl

theorem appendItem (list : Descriptor) (content : Handle) :
    ByCalls .arenas (Arena.appendItem list content) := by
  refine bind (view fun _ _ => rfl) fun _ => ?_
  refine bind (view fun _ _ => rfl) fun _ => ?_
  refine bind (check _ fun _ => trivial) fun _ => ?_
  refine (materialize content).bind fun (_, _) => ?_
  refine (allocate .listItem _).bind fun item => ?_
  refine (writingField item.addr _ _).bind fun _ => ?_
  refine (writingField item.addr _ _).bind fun _ => ?_
  refine (linkItem list.addr item.addr).bind fun _ => ?_
  refine (writingField list.addr _ _).bind fun _ => ?_
  exact bumpGeneration.returning

theorem setItemContent (item content : Handle) :
    ByCalls .arenas (Arena.setItemContent item content) := by
  refine bind (view fun _ _ => rfl) fun d => ?_
  refine (materialize content).bind fun (_, _) => ?_
  refine (writingField d.addr _ _).bind fun _ => ?_
  exact bumpGeneration.returning

theorem readingView {x : Arena → Step MemoryError ListView α}
    (blind : ∀ a high, x (a.under high) = x a) : ByCalls .views (ListView.reading x) where
  calls := fun s => ⟨[], List.not_mem_nil, rfl⟩
  ceiling := by
    intro s high _
    obtain ⟨v, a⟩ := s
    refine .inr ?_
    simp only [ListView.reading, Keeper.views, Keeper.beside, blind]

theorem readingObject {x : Arena → Step MemoryError ObjectView α}
    (blind : ∀ a high, x (a.under high) = x a) : ByCalls .views (ObjectView.reading x) where
  calls := fun s => ⟨[], List.not_mem_nil, rfl⟩
  ceiling := by
    intro s high _
    obtain ⟨o, a⟩ := s
    refine .inr ?_
    simp only [ObjectView.reading, Keeper.views, Keeper.beside, blind]

end ByCalls

namespace ListView

variable (a : Arena) (high : Option Nat)

theorem walk_under (count left : Nat) (addr : Addr) :
    walk (a.under high) count left addr = walk a count left addr := by
  induction left generalizing addr with
  | zero => rfl
  | succ left ih =>
    have visited : visit (a.under high) addr = visit a addr := rfl
    simp only [walk, visited, ih]

@[simp] theorem refresh_under : refresh (a.under high) = refresh a := by
  unfold refresh
  simp only [walk_under]
  rfl

@[simp] theorem ensureFresh_under : ensureFresh (a.under high) = ensureFresh a := by
  unfold ensureFresh
  rw [refresh_under]
  rfl

@[simp] theorem ofHandle_under : ofHandle (a.under high) = ofHandle a := by
  funext h
  simp only [ofHandle, refresh_under]

@[simp] theorem item_under : item (a.under high) = item a := by
  funext index
  simp only [item, ensureFresh_under]

@[simp] theorem get_under : get (a.under high) = get a := by
  funext index
  simp only [get, ensureFresh_under]

@[simp] theorem allItems_under : allItems (a.under high) = allItems a := by
  simp only [allItems, ensureFresh_under]

@[simp] theorem allValues_under : allValues (a.under high) = allValues a := by
  simp only [allValues, ensureFresh_under]

@[simp] theorem indexOfText_under : indexOfText (a.under high) = indexOfText a := by
  have same : hasText (a.under high) = hasText a := rfl
  funext text
  simp only [indexOfText, ensureFresh_under, same]

@[simp] theorem indexOfNumber_under : indexOfNumber (a.under high) = indexOfNumber a := by
  have same : hasNumber (a.under high) = hasNumber a := rfl
  funext number
  simp only [indexOfNumber, ensureFresh_under, same]

@[simp] theorem toText_under : toText (a.under high) = toText a := by
  have same : concat (a.under high) = concat a := rfl
  simp only [toText, ensureFresh_under, same]

end ListView

namespace ObjectView

variable (a : Arena) (high : Option Nat)

@[simp] theorem ofHandle_under : ofHandle (a.under high) = ofHandle a := by
  funext h
  unfold ofHandle
  simp only [ListView.ofHandle_under]
  rfl

@[simp] theorem position_under : position (a.under high) = position a := by
  funext key
  simp only [position, indexOf, ListView.indexOfText_under]

end ObjectView

namespace ByCalls

theorem createListView : ByCalls .arenas ListView.create :=
  createList.bind fun h => view fun a high => congrFun (ListView.ofHandle_under a high) h

theorem append (content : Handle) : ByCalls .views (ListView.append content) := by
  refine bind (view fun _ _ => rfl) fun fresh => ?_
  refine bind (view fun _ _ => rfl) fun header => ?_
  refine bind (onSecond (appendItem header content)) fun (item, value) => ?_
  dsimp only
  split
  · exact returning (readingView fun _ _ => rfl)
  · exact returning (readingView ListView.refresh_under)

theorem setContent (item content : Handle) : ByCalls .views (ListView.setContent item content) :=
  (onSecond (setItemContent item content)).bind fun _ => readingView ListView.refresh_under

theorem setContentAt (index : Nat) (content : Handle) :
    ByCalls .views (ListView.setContentAt index content) :=
  bind (readingView fun a high => congrFun (ListView.item_under a high) index) fun target =>
    setContent target content

/-! Objects. -/

theorem changingKeys {x : ListStep α} (inner : ByCalls .views x) :
    ByCalls .views (ObjectView.changingKeys x) :=
  within inner (fun _ lacks => lacks) (fun _ => rfl) (fun _ _ => rfl) (fun _ _ => rfl)
    fun _ _ _ => rfl

theorem changingValues {x : ListStep α} (inner : ByCalls .views x) :
    ByCalls .views (ObjectView.changingValues x) :=
  within inner (fun _ lacks => lacks) (fun _ => rfl) (fun _ _ => rfl) (fun _ _ => rfl)
    fun _ _ _ => rfl

theorem createObjectView : ByCalls .arenas ObjectView.create :=
  createObject.bind fun h => view fun a high => congrFun (ObjectView.ofHandle_under a high) h

theorem addKey (key : String) : ByCalls .views (ObjectView.addKey key) := by
  refine bind (onSecond (check _ fun _ => trivial)) fun _ => ?_
  refine (onSecond (createString key)).bind fun text => ?_
  refine (changingKeys (append text)).bind fun _ => ?_
  exact changingValues (append .none)

theorem setSlot (item value : Handle) : ByCalls .views (ObjectView.setSlot item value) :=
  changingValues (setContent item value)

theorem set (key : String) (value : Handle) : ByCalls .views (ObjectView.set key value) :=
  bind (readingObject fun a high => congrFun (ObjectView.position_under a high) key) fun index =>
    changingValues (setContentAt index value)

/-! Samples. -/

theorem appendDoubles (vs : List Binary64) : ByCalls .views (Samples.appendDoubles vs) := by
  induction vs with
  | nil => exact pure _
  | cons v vs ih => exact (onSecond (createDouble v)).bind fun h => (append h).bind fun _ => ih

theorem doubleList (vs : List Binary64) : ByCalls .arenas (Samples.doubleList vs) := by
  refine createListView.bind fun _ => ?_
  exact (starting (appendDoubles vs)).bind fun (_, _) => pure _

theorem addEntry (key : String) {create : ArenaStep Handle} (inner : ByCalls .arenas create) :
    ByCalls .views (Samples.addEntry key create) := by
  refine (addKey key).bind fun _ => ?_
  refine (onSecond inner).bind fun h => ?_
  exact set key h

theorem addPerson : ByCalls .views Samples.addPerson := by
  refine (addEntry _ (createString _)).bind fun _ => ?_
  refine (addEntry _ (createDouble _)).bind fun _ => ?_
  exact addEntry _ (createString _)

theorem personObject : ByCalls .arenas Samples.personObject := by
  refine createObjectView.bind fun _ => ?_
  exact (starting addPerson).bind fun (_, _) => pure _

theorem addNumbered (count index : Nat) : ByCalls .views (Samples.addNumbered count index) := by
  induction count generalizing index with
  | zero => exact pure _
  | succ count ih => exact (addEntry _ (createDouble _)).bind fun _ => ih (index + 1)

theorem numberedObject (count : Nat) : ByCalls .arenas (Samples.numberedObject count) := by
  refine createObjectView.bind fun _ => ?_
  exact (starting (addNumbered count 0)).bind fun (_, _) => pure _

theorem sumRounds (limit step : Binary64) (rounds : Nat) :
    ByCalls .views (Samples.sumRounds limit step rounds) := by
  induction rounds with
  | zero => exact pure _
  | succ rounds ih =>
    have content : ∀ index, ByCalls .views (ListView.reading fun a => ListView.get a index) :=
      fun index => readingView fun a high => congrFun (ListView.get_under a high) index
    refine (content 0).bind fun counter => ?_
    refine bind (onSecond (view fun _ _ => rfl)) fun value => ?_
    split
    · exact pure _
    · refine (content 1).bind fun sum => ?_
      refine (onSecond (apply ..)).bind fun _ => ?_
      exact (onSecond (apply ..)).bind fun _ => ih

theorem seriesSum (rounds : Nat) (limit step : Binary64) :
    ByCalls .arenas (Samples.seriesSum rounds limit step) := by
  refine (createDouble _).bind fun i => ?_
  refine (createDouble _).bind fun sum => ?_
  refine createListView.bind fun view => ?_
  have added := (append i).bind fun _ => (append sum).bind fun _ => sumRounds limit step rounds
  refine (starting added).bind fun (ended, _) => ?_
  dsimp only
  split
  · refine bind (ByCalls.view fun _ _ => rfl) fun _ => ?_
    exact returning (ByCalls.view fun _ _ => rfl)
  · exact pure _

end ByCalls
end ValueArena
