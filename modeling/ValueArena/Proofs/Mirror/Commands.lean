import ValueArena.Program.Execution
import ValueArena.Proofs.Calls.Commands
import ValueArena.Proofs.Mirror.Answers
import ValueArena.Proofs.Run.Reads

/-!
Commands on two arenas that mirror each other, with names that correspond. Commands that use no
address but those of values they were given agree.
-/
namespace ValueArena

variable {T : Type → Type → Type} [KeyMap T]

namespace Command

/-- Public commands that do not ask where values lie. -/
def isPortable : Command → Bool
  | .scan .. | .config => false
  | c => c.isPublic

/-- What a name stands for, or the failure of a name that stands for nothing. -/
def bound (name : String) : Option α → Except Fault α
  | some v => .ok v
  | none => .error (.unbound name)

theorem handleOf_named (name : String) :
    handleOf (.named name) = .view fun s => bound name (s.1.handles.find? name) := by
  funext ⟨n, a⟩
  cases found : n.handles.find? name <;> simp only [handleOf, Step.view, bound, found]

theorem listNamed_eq (name : String) :
    listNamed name = .view fun s => bound name (s.1.lists.find? name) := by
  funext ⟨n, a⟩
  cases found : n.lists.find? name <;> simp only [listNamed, Step.view, bound, found]

theorem objectNamed_eq (name : String) :
    objectNamed name = .view fun s => bound name (s.1.objects.find? name) := by
  funext ⟨n, a⟩
  cases found : n.objects.find? name <;> simp only [objectNamed, Step.view, bound, found]

end Command

namespace Mirror

open Command

/-- Arenas that mirror each other, with names for what corresponds. -/
structure Corresponds (M : Mirror) (s t : Names × Arena) : Prop where
  mirrors : M.Mirrors s.2 t.2
  names : M.SameNames s.1 t.1

def runs : Pairing Fault (Names × Arena) := ⟨Fault.lacksMemory, Corresponds⟩

variable {M : Mirror} {s t : Names × Arena} {R : Mirror → α → β → Prop}
  {S : Mirror → γ → δ → Prop}

theorem bound_same {R : α → α → Prop} {u v : Option α} (rel : Option.Rel R u v) (name : String) :
    Outcome R (bound name u) (bound name v) := by
  cases rel with
  | some related => exact .ok related
  | none => exact .error _

section

variable (here : M.Corresponds s t)
include here

theorem agree_handleOf (arg : HandleArg) {f : Handle → CommandStep γ} {k : Handle → CommandStep δ}
    (next : ∀ g h, M.Same g h → Agree runs M (f g) (k h) S s t) :
    Agree runs M (handleOf arg >>= f) (handleOf arg >>= k) S s t := by
  cases arg with
  | none => exact next .none .none .vacant
  | immediate v => exact next (.immediate v) (.immediate v) (.immediate v)
  | named name =>
    rw [handleOf_named]
    exact agree_view_bind (K := runs) here (bound_same (here.names.handles name) name) next

theorem agree_sourceOf (arg : SourceArg) {f : Source → CommandStep γ} {k : Source → CommandStep δ}
    (next : ∀ u v, M.Offers u v → Agree runs M (f u) (k v) S s t) :
    Agree runs M (sourceOf arg >>= f) (sourceOf arg >>= k) S s t := by
  cases arg with
  | number v => exact next _ _ (.number v)
  | text v => exact next _ _ (.text v)
  | handle arg =>
    simp only [sourceOf, bind_assoc, pure_bind]
    exact agree_handleOf here arg fun _ _ same => next _ _ (.handle same)

theorem agree_listNamed (name : String) {f : ListView → CommandStep γ}
    {k : ListView → CommandStep δ}
    (next : ∀ v w, M.SameView v w → Agree runs M (f v) (k w) S s t) :
    Agree runs M (listNamed name >>= f) (listNamed name >>= k) S s t := by
  rw [listNamed_eq]
  exact agree_view_bind (K := runs) here (bound_same (here.names.lists name) name) next

theorem agree_objectNamed (name : String) {f : ObjectView → CommandStep γ}
    {k : ObjectView → CommandStep δ}
    (next : ∀ o q, M.SameObject o q → Agree runs M (f o) (k q) S s t) :
    Agree runs M (objectNamed name >>= f) (objectNamed name >>= k) S s t := by
  rw [objectNamed_eq]
  exact agree_view_bind (K := runs) here (bound_same (here.names.objects name) name) next

/-- Results of reads that are related on both sides. -/
theorem agree_look {p q : Arena → Except MemoryError α} {R : α → α → Prop}
    {f k : α → CommandStep Answer} (outcome : Outcome R (p s.2) (q t.2))
    (next : ∀ u v, R u v → Agree runs M (f u) (k v) SameAnswer s t) :
    Agree runs M (reading p >>= f) (reading q >>= k) SameAnswer s t :=
  agree_view_bind (K := runs) here (outcome.mapError Fault.memory) next

theorem agree_return {answer answer' : Answer} (same : M.SameAnswer answer answer') :
    Agree runs M (pure answer) (pure answer') SameAnswer s t := agree_pure (K := runs) here same

theorem agree_plain (answer : Answer) (none : answer.shown = []) :
    Agree runs M (pure answer) (pure answer) SameAnswer s t :=
  agree_return here (.plain answer none)

/-- A read that answers the same on both sides. -/
theorem agree_read_plain {p q : Arena → Except MemoryError α} (same : p s.2 = q t.2)
    (answer : α → Answer) (none : ∀ v, (answer v).shown = []) :
    Agree runs M (do return answer (← reading p)) (do return answer (← reading q)) SameAnswer
      s t := by
  refine agree_look here (outcome_of_eq same) ?_
  rintro v _ rfl
  exact agree_plain here _ (none v)

theorem agree_onArena {x : ArenaStep α} {y : ArenaStep β} (agree : Agree arenas M x y R s.2 t.2) :
    Agree runs M (onArena x) (onArena y) R s t :=
  (agree.mapError Fault.memory fun _ lacks => lacks).lift (fun _ lacks => lacks) rfl rfl
    fun _ leads mirrors => ⟨mirrors, here.names.leads leads here.mirrors.sound⟩

theorem agree_changingList (name : String) {x : ListStep α} {y : ListStep β}
    (agree : ∀ v w, M.SameView v w → Agree (along SameView) M x y R (v, s.2) (w, t.2)) :
    Agree runs M (changingList name x) (changingList name y) R s t := by
  refine agree_listNamed here name fun v w same => ?_
  refine ((agree v w same).mapError Fault.memory fun _ lacks => lacks).lift (fun _ lacks => lacks)
    rfl rfl ?_
  rintro N leads ⟨mirrors, same⟩
  exact ⟨mirrors, (here.names.leads leads here.mirrors.sound).keep name (.list same)⟩

theorem agree_changingObject (name : String) {x : ObjectStep α} {y : ObjectStep β}
    (agree : ∀ o q, M.SameObject o q → Agree (along SameObject) M x y R (o, s.2) (q, t.2)) :
    Agree runs M (changingObject name x) (changingObject name y) R s t := by
  refine agree_objectNamed here name fun o q same => ?_
  refine ((agree o q same).mapError Fault.memory fun _ lacks => lacks).lift (fun _ lacks => lacks)
    rfl rfl ?_
  rintro N leads ⟨mirrors, same⟩
  exact ⟨mirrors, (here.names.leads leads here.mirrors.sound).keep name (.object same)⟩

theorem agree_readingList (name : String) {x : Arena → Step MemoryError ListView α}
    {y : Arena → Step MemoryError ListView β}
    (agree : ∀ v w, M.SameView v w → Agree (M.beside SameView) M (x s.2) (y t.2) R v w) :
    Agree runs M (readingList name x) (readingList name y) R s t :=
  agree_changingList here name fun v w same => agree_reading here.mirrors same (agree v w same)

theorem agree_readingObject (name : String) {x : Arena → Step MemoryError ObjectView α}
    {y : Arena → Step MemoryError ObjectView β}
    (agree : ∀ o q, M.SameObject o q → Agree (M.beside SameObject) M (x s.2) (y t.2) R o q) :
    Agree runs M (readingObject name x) (readingObject name y) R s t :=
  agree_changingObject here name fun o q same =>
    agree_objectReading same here.mirrors (agree o q same)

theorem description_same {v w : ListView} (same : M.SameView v w) :
    Outcome M.SameDescription (v.description s.2) (w.description t.2) := by
  refine (outcome_of_eq (listCount_same here.mirrors same.list)).bind ?_
  rintro count _ rfl
  exact .ok ⟨same.handle, rfl, same.items.length_eq, same.values.length_eq⟩

theorem agree_runOnList (name : String) (command : ListCommand) :
    Agree runs M (runOnList name command) (runOnList name command) SameAnswer s t := by
  have mirrors := here.mirrors
  cases command with
  | clone => exact agree_listNamed here name fun _ _ same => agree_return here (.list same)
  | handle =>
    exact agree_listNamed here name fun _ _ same => agree_return here (.handle same.handle)
  | describe =>
    refine agree_listNamed here name fun v w same => ?_
    refine agree_look here (description_same here same) fun d e same => ?_
    exact agree_return here (.listDescription same)
  | cached =>
    refine agree_listNamed here name fun v w same => ?_
    have items : v.items.size = w.items.size := same.items.length_eq
    have values : v.values.size = w.values.size := same.values.length_eq
    rw [items, values]
    exact agree_plain here _ rfl
  | refresh =>
    exact (agree_readingList here name fun _ _ same => agree_refresh mirrors same).map
      fun _ _ _ _ => .plain _ rfl
  | append content =>
    refine agree_listNamed here name fun _ _ _ => ?_
    refine agree_handleOf here content fun g h content => ?_
    exact (agree_changingList here name fun _ _ same => agree_append mirrors same content).map
      fun _ _ _ item => .handle item
  | appendEmpty =>
    exact (agree_changingList here name fun _ _ same => agree_append mirrors same .vacant).map
      fun _ _ _ item => .handle item
  | setContent item content =>
    refine agree_listNamed here name fun _ _ _ => ?_
    refine agree_handleOf here item fun _ _ item => ?_
    refine agree_handleOf here content fun _ _ content => ?_
    exact (agree_changingList here name fun _ _ same =>
      agree_setContent mirrors same item content).map fun _ _ _ _ => .plain _ rfl
  | setContentAt index content =>
    refine agree_listNamed here name fun _ _ _ => ?_
    refine agree_handleOf here content fun _ _ content => ?_
    exact (agree_changingList here name fun _ _ same =>
      agree_setContentAt mirrors same index content).map fun _ _ _ _ => .plain _ rfl
  | item index =>
    exact (agree_readingList here name fun _ _ same => agree_item mirrors same index).map
      fun _ _ _ item => .handle item
  | get index =>
    exact (agree_readingList here name fun _ _ same => agree_get mirrors same index).map
      fun _ _ _ content => .handle content
  | items =>
    exact (agree_readingList here name fun _ _ same => agree_allItems mirrors same).map
      fun _ _ _ items => .handles items
  | values =>
    exact (agree_readingList here name fun _ _ same => agree_allValues mirrors same).map
      fun _ _ _ values => .handles values
  | indexOfText text =>
    refine (agree_readingList here name fun _ _ same => agree_indexOfText mirrors same text).map ?_
    rintro N i _ rfl
    exact .plain _ rfl
  | indexOfNumber number =>
    refine (agree_readingList here name fun _ _ same =>
      agree_indexOfNumber mirrors same number).map ?_
    rintro N i _ rfl
    exact .plain _ rfl
  | text =>
    refine (agree_readingList here name fun _ _ same => agree_toText mirrors same).map ?_
    rintro N text _ rfl
    exact .plain _ rfl

theorem agree_runOnObject (name : String) (command : ObjectCommand) :
    Agree runs M (runOnObject name command) (runOnObject name command) SameAnswer s t := by
  have mirrors := here.mirrors
  cases command with
  | clone =>
    exact agree_objectNamed here name fun _ _ same => agree_return here (.object same)
  | handle =>
    exact agree_objectNamed here name fun _ _ same =>
      agree_return here (.handle same.handle)
  | keys =>
    exact agree_objectNamed here name fun _ _ same => agree_return here (.list same.keys)
  | values =>
    exact agree_objectNamed here name fun _ _ same =>
      agree_return here (.list same.values)
  | describe =>
    refine agree_objectNamed here name fun o q same => ?_
    refine agree_look here (outcome_of_eq (listCount_same mirrors same.keys.list)) ?_
    rintro size _ rfl
    refine agree_look here (description_same here same.keys) fun _ _ keys => ?_
    refine agree_look here (description_same here same.values) fun _ _ values => ?_
    exact agree_return here (.objectDescription size keys values)
  | addKey key =>
    exact (agree_changingObject here name fun _ _ same => agree_addKey mirrors same key).map
      fun _ _ _ item => .handle item
  | indexOf key =>
    refine (agree_readingObject here name fun _ _ same =>
      agree_objectIndexOf mirrors same key).map ?_
    rintro N i _ rfl
    exact .plain _ rfl
  | hasKey key =>
    refine (agree_readingObject here name fun _ _ same => agree_hasKey mirrors same key).map ?_
    rintro N found _ rfl
    exact .plain _ rfl
  | slot key =>
    exact (agree_readingObject here name fun _ _ same => agree_slot mirrors same key).map
      fun _ _ _ item => .handle item
  | get key =>
    exact (agree_readingObject here name fun _ _ same => agree_objectGet mirrors same key).map
      fun _ _ _ value => .handle value
  | setSlot item value =>
    refine agree_objectNamed here name fun _ _ _ => ?_
    refine agree_handleOf here item fun _ _ item => ?_
    refine agree_handleOf here value fun _ _ value => ?_
    exact (agree_changingObject here name fun _ _ same =>
      agree_setSlot mirrors same item value).map fun _ _ _ _ => .plain _ rfl
  | set key value =>
    refine agree_objectNamed here name fun _ _ _ => ?_
    refine agree_handleOf here value fun _ _ value => ?_
    exact (agree_changingObject here name fun _ _ same =>
      agree_set mirrors same key value).map fun _ _ _ _ => .plain _ rfl

/-- A named target stands on both sides for what it came to name. -/
theorem agree_runAssign (target : HandleArg) (source : SourceArg) :
    Agree runs M (runAssign target source) (runAssign target source) SameAnswer s t := by
  refine agree_handleOf here target fun g h old => ?_
  refine agree_sourceOf here source fun u v offers => ?_
  refine (agree_onArena here (agree_assign here.mirrors old offers)).bind ?_
  rintro N s t ⟨_, new⟩ ⟨_, new'⟩ leads (here : N.Corresponds s t) same
  cases target with
  | none | immediate => exact agree_return here (.target same)
  | named name =>
    exact agree_of_apply rfl rfl (.refl N) ⟨here.mirrors, here.names.keep name (.handle same)⟩
      (.ok (.target same))

/-- Reading a value through a handle. -/
theorem agree_readThrough (arg : HandleArg) {f : Handle → Arena → Except MemoryError α}
    (same : ∀ {g h : Handle}, M.Same g h → f g s.2 = f h t.2) (answer : α → Answer)
    (none : ∀ v, (answer v).shown = []) :
    Agree runs M (do let h ← handleOf arg; return answer (← reading (f h)))
      (do let h ← handleOf arg; return answer (← reading (f h))) SameAnswer s t :=
  agree_handleOf here arg fun _ _ same' => agree_read_plain here (same same') answer none

/-- Writing a value through a handle. -/
theorem agree_writeThrough (arg : HandleArg) {x : Handle → ArenaStep Unit}
    (agree : ∀ {g h : Handle}, M.Same g h →
      Agree arenas M (x g) (x h) (fun _ _ _ => True) s.2 t.2) :
    Agree runs M (do let h ← handleOf arg; onArena (x h); return Answer.nothing)
      (do let h ← handleOf arg; onArena (x h); return Answer.nothing) SameAnswer s t :=
  agree_handleOf here arg fun _ _ same =>
    (agree_onArena here (agree same)).map fun _ _ _ _ => .plain _ rfl

theorem agree_run (r : Registry T) (command : Command) (portable : command.isPortable = true) :
    Agree runs M (command.run r) (command.run r) SameAnswer s t := by
  have mirrors := here.mirrors
  cases command with
  | bind h => exact agree_handleOf here h fun _ _ same => agree_return here (.handle same)
  | create content =>
    exact (agree_onArena here (agree_create mirrors content)).map fun _ _ _ made => .handle made.1
  | createList =>
    exact (agree_onArena here (agree_createList mirrors)).map fun _ _ _ made => .handle made.1
  | createObject =>
    exact (agree_onArena here (agree_createObject mirrors)).map fun _ _ _ made => .handle made.1
  | decode place delta =>
    cases place with
    | addr => cases portable
    | handle h =>
      cases delta with
      | some => cases portable
      | none =>
        simp only [run, pure_bind]
        refine agree_handleOf here h fun g h same => ?_
        refine agree_look here (decode_same mirrors (same.link mirrors.sound)) fun _ _ found => ?_
        exact agree_return here (.handle found)
  | scan | config | doubleList | personObject | numberedObject | seriesSum => cases portable
  | describe h =>
    exact agree_handleOf here h fun _ _ same => agree_return here (.description same)
  | equal x y =>
    refine agree_handleOf here x fun g h first => ?_
    refine agree_handleOf here y fun g' h' second => ?_
    have same : (g == g') = (h == h') := by
      rw [Bool.eq_iff_iff, beq_iff_eq, beq_iff_eq]
      exact first.eq_iff second mirrors.sound
    rw [same]
    exact agree_plain here _ rfl
  | readInteger h =>
    exact agree_readThrough here h (readInteger_same mirrors) _ fun _ => rfl
  | readLong h => exact agree_readThrough here h (readLong_same mirrors) _ fun _ => rfl
  | readDouble h => exact agree_readThrough here h (readDouble_same mirrors) _ fun _ => rfl
  | readString h =>
    exact agree_readThrough here h (readString_same mirrors) (fun v => .text (some v)) fun _ => rfl
  | setInteger h v =>
    exact agree_writeThrough here h fun same => agree_setPayload mirrors same Arena.integers v
  | setLong h v =>
    exact agree_writeThrough here h fun same => agree_setPayload mirrors same Arena.longs v
  | setDouble h v =>
    exact agree_writeThrough here h fun same => agree_setPayload mirrors same Arena.doubles v
  | readFunction h => exact agree_readThrough here h (readFunction_same mirrors) _ fun _ => rfl
  | readNativeIndex h =>
    exact agree_readThrough here h (readNativeIndex_same mirrors) _ fun _ => rfl
  | resolveFunction h =>
    refine agree_readThrough here h (fun same => ?_) _ fun _ => rfl
    simp only [Registry.resolveFunction, readFunction_same mirrors same]
  | resolveObject h =>
    refine agree_readThrough here h (fun same => ?_) _ fun _ => rfl
    simp only [Registry.resolveObject, readNativeIndex_same mirrors same]
    exact checked_same mirrors same .nativeObject _
  | resolveNative h =>
    refine agree_readThrough here h (fun same => ?_) _ fun _ => rfl
    simp only [Registry.resolveNative, readNativeIndex_same mirrors same]
    exact checked_same mirrors same .nativeFunction _
  | registrySize => exact agree_plain here _ rfl
  | assign target source => exact agree_runAssign here target source
  | apply op target source =>
    refine agree_handleOf here target fun _ _ same => ?_
    refine agree_sourceOf here source fun _ _ offers => ?_
    refine (agree_onArena here (agree_apply mirrors op same offers)).map ?_
    rintro N v _ rfl
    exact .plain _ rfl
  | sourceKind source =>
    refine agree_sourceOf here source fun _ _ offers => ?_
    rw [offers.kind mirrors.sound]
    exact agree_plain here _ rfl
  | listCreate =>
    exact (agree_onArena here (agree_listCreate mirrors)).map fun _ _ _ same => .list same
  | listOpen h =>
    refine agree_handleOf here h fun g h same => ?_
    exact agree_look here (ofHandle_same mirrors same) fun _ _ same =>
      agree_return here (.list same)
  | onList name command => exact agree_runOnList here name command
  | objectCreate =>
    exact (agree_onArena here (agree_objectCreate mirrors)).map fun _ _ _ same => .object same
  | objectOpen h =>
    refine agree_handleOf here h fun g h same => ?_
    exact agree_look here (objectView_same mirrors same) fun _ _ same =>
      agree_return here (.object same)
  | onObject name command => exact agree_runOnObject here name command

end

end Mirror
end ValueArena
