import ValueArena.Program.Statement
import ValueArena.Proofs.Calls.Operations

/-!
Commands reach memory through calls alone, and each but the one that answers the configuration does
the same under a higher ceiling unless memory lacks.
-/
namespace ValueArena

variable {T : Type → Type → Type} [KeyMap T]

def Fault.lacksMemory : Fault → Prop
  | .memory e => e.lacksMemory
  | .unbound _ => False

instance : DecidablePred Fault.lacksMemory
  | .memory e => inferInstanceAs (Decidable e.lacksMemory)
  | .unbound _ => .isFalse id

/-- Names beside the arena that a program runs on. -/
def Keeper.names : Keeper Fault (Names × Arena) := .beside Fault.lacksMemory

namespace ByCalls

open Command

theorem onArena {x : ArenaStep α} (inner : ByCalls .arenas x) :
    ByCalls .names (Command.onArena x) :=
  onSecond (mapError inner (fun _ lacks => lacks) rfl rfl)

theorem reading {f : Arena → Except MemoryError α} (blind : ∀ a high, f (a.under high) = f a) :
    ByCalls .names (Command.reading f) := onArena (view blind)

theorem handleOf (arg : HandleArg) : ByCalls .names (Command.handleOf arg) := by
  cases arg with
  | none => exact pure _
  | immediate v => exact pure _
  | named name => exact view fun _ _ => rfl

/-- An answer that is read off the value an argument names. -/
theorem readingAt (arg : HandleArg) {f : Arena → Handle → Except MemoryError α} {g : α → β}
    (blind : ∀ a high h, f (a.under high) h = f a h) :
    ByCalls .names (Command.handleOf arg >>= fun h =>
      Command.reading (f · h) >>= fun v => Pure.pure (g v)) := by
  refine (handleOf arg).bind fun h => ?_
  exact returning (reading fun a high => blind a high h)

theorem sourceOf (arg : SourceArg) : ByCalls .names (Command.sourceOf arg) := by
  cases arg with
  | number v => exact pure _
  | text v => exact pure _
  | handle h => exact (handleOf h).returning

theorem listNamed (name : String) : ByCalls .names (Command.listNamed name) := view fun _ _ => rfl

theorem objectNamed (name : String) : ByCalls .names (Command.objectNamed name) :=
  view fun _ _ => rfl

/-- A step of a view that is kept under its name. -/
theorem keeping {x : Step MemoryError (τ × Arena) α} (inner : ByCalls .views x)
    (find : Names → τ) (keep : τ → Names → Names) :
    ByCalls .names (.within (fun s => (find s.1, s.2)) (fun t s => (keep t.1 s.1, t.2))
      (x.mapError Fault.memory)) :=
  within (mapError (L := .beside Fault.lacksMemory) inner (fun _ lacks => lacks) rfl rfl)
    (fun _ lacks => lacks) (fun _ => rfl) (fun _ _ => rfl) (fun _ _ => rfl) fun _ _ _ => rfl

theorem changingList (name : String) {x : ListStep α} (inner : ByCalls .views x) :
    ByCalls .names (Command.changingList name x) :=
  (listNamed name).bind fun v =>
    keeping inner (fun _ => v) fun v n => { n with lists := n.lists.insert name v }

theorem changingObject (name : String) {x : ObjectStep α} (inner : ByCalls .views x) :
    ByCalls .names (Command.changingObject name x) :=
  (objectNamed name).bind fun o =>
    keeping inner (fun _ => o) fun o n => { n with objects := n.objects.insert name o }

theorem readingList (name : String) {x : Arena → Step MemoryError ListView α}
    (blind : ∀ a high, x (a.under high) = x a) : ByCalls .names (Command.readingList name x) :=
  changingList name (readingView blind)

theorem readingObjectNamed (name : String) {x : Arena → Step MemoryError ObjectView α}
    (blind : ∀ a high, x (a.under high) = x a) : ByCalls .names (Command.readingObject name x) :=
  changingObject name (readingObject blind)

theorem runOnList (name : String) (command : ListCommand) :
    ByCalls .names (Command.runOnList name command) := by
  cases command with
  | clone => exact (listNamed name).returning
  | handle => exact (listNamed name).returning
  | describe => exact (listNamed name).bind fun v => returning (reading fun _ _ => rfl)
  | cached => exact (listNamed name).returning
  | refresh => exact (readingList name (by simp)).returning
  | append content =>
    refine (listNamed name).bind fun _ => ?_
    refine (handleOf content).bind fun h => ?_
    exact (changingList name (append h)).returning
  | appendEmpty => exact (changingList name (append .none)).returning
  | setContent item content =>
    refine (listNamed name).bind fun _ => ?_
    refine (handleOf item).bind fun item => ?_
    refine (handleOf content).bind fun h => ?_
    exact (changingList name (setContent item h)).returning
  | setContentAt index content =>
    refine (listNamed name).bind fun _ => ?_
    refine (handleOf content).bind fun h => ?_
    exact (changingList name (setContentAt index h)).returning
  | item index => exact returning (readingList name (by simp))
  | get index => exact returning (readingList name (by simp))
  | items => exact (readingList name (by simp)).returning
  | values => exact (readingList name (by simp)).returning
  | indexOfText text => exact returning (readingList name (by simp))
  | indexOfNumber v => exact returning (readingList name (by simp))
  | text => exact (readingList name (by simp)).returning

theorem runOnObject (name : String) (command : ObjectCommand) :
    ByCalls .names (Command.runOnObject name command) := by
  cases command with
  | clone => exact (objectNamed name).returning
  | handle => exact (objectNamed name).returning
  | keys => exact (objectNamed name).returning
  | values => exact (objectNamed name).returning
  | describe =>
    refine (objectNamed name).bind fun o => ?_
    refine bind (reading fun _ _ => rfl) fun _ => ?_
    refine bind (reading fun _ _ => rfl) fun _ => ?_
    exact returning (reading fun _ _ => rfl)
  | addKey key => exact (changingObject name (addKey key)).returning
  | indexOf key => exact returning (readingObjectNamed name (by simp [ObjectView.indexOf]))
  | hasKey key =>
    exact returning (readingObjectNamed name (by simp [ObjectView.hasKey, ObjectView.indexOf]))
  | slot key => exact returning (readingObjectNamed name (by simp [ObjectView.slot]))
  | get key => exact returning (readingObjectNamed name (by simp [ObjectView.get]))
  | setSlot item value =>
    refine (objectNamed name).bind fun _ => ?_
    refine (handleOf item).bind fun item => ?_
    refine (handleOf value).bind fun h => ?_
    exact (changingObject name (setSlot item h)).returning
  | set key value =>
    refine (objectNamed name).bind fun _ => ?_
    refine (handleOf value).bind fun h => ?_
    exact (changingObject name (set key h)).returning

theorem runAssign (target : HandleArg) (source : SourceArg) :
    ByCalls .names (Command.runAssign target source) := by
  refine (handleOf target).bind fun old => ?_
  refine (sourceOf source).bind fun source => ?_
  refine (onArena (starting (assign source))).bind fun (_, new) => ?_
  cases target with
  | named name => exact returning (modify (fun _ => rfl) fun _ _ => rfl)
  | none => exact pure _
  | immediate v => exact pure _

/-- Looking at the bytes at an address, or so far past it. -/
theorem decodeFrom (base : Addr) (delta : Option UInt32) :
    ByCalls .names (match delta with
      | none => do return Answer.handle (← Command.reading (·.decode base))
      | some delta =>
        match base.add? delta with
        | none => Pure.pure Answer.nothing
        | some addr => do return Answer.handle (← Command.reading (·.decode addr))) := by
  split
  · exact returning (reading fun _ _ => rfl)
  · split
    · exact pure _
    · exact returning (reading fun _ _ => rfl)

theorem run (r : Registry T) {c : Command} (other : c ≠ .config) : ByCalls .names (c.run r) := by
  cases c with
  | bind h => exact (handleOf h).returning
  | create content => exact (onArena (create content)).returning
  | createList => exact (onArena createList).returning
  | createObject => exact (onArena createObject).returning
  | decode place delta =>
    cases place with
    | addr base => exact decodeFrom base delta
    | handle h => exact (handleOf h).bind fun h => decodeFrom h.addr delta
  | scan page start count => exact view fun _ _ => rfl
  | describe h => exact (handleOf h).returning
  | equal a b => exact (handleOf a).bind fun _ => (handleOf b).returning
  | config => exact absurd rfl other
  | readInteger h => exact readingAt h fun _ _ _ => rfl
  | readLong h => exact readingAt h fun _ _ _ => rfl
  | readDouble h => exact readingAt h fun _ _ _ => rfl
  | readString h => exact readingAt h fun _ _ _ => rfl
  | setInteger h v => exact (handleOf h).bind fun h => (onArena (setPayload .integer h v)).returning
  | setLong h v => exact (handleOf h).bind fun h => (onArena (setPayload .long h v)).returning
  | setDouble h v => exact (handleOf h).bind fun h => (onArena (setPayload .double h v)).returning
  | readFunction h => exact readingAt h fun _ _ _ => rfl
  | readNativeIndex h => exact readingAt h fun _ _ _ => rfl
  | resolveFunction h => exact readingAt h fun _ _ _ => rfl
  | resolveObject h => exact readingAt h fun _ _ _ => rfl
  | resolveNative h => exact readingAt h fun _ _ _ => rfl
  | registrySize => exact pure _
  | assign target source => exact runAssign target source
  | apply op target source =>
    refine (handleOf target).bind fun target => ?_
    refine (sourceOf source).bind fun source => ?_
    exact (onArena (apply op target source)).returning
  | sourceKind source => exact (sourceOf source).returning
  | doubleList vs => exact (onArena (doubleList vs)).returning
  | personObject => exact (onArena personObject).returning
  | numberedObject count => exact (onArena (numberedObject count)).returning
  | seriesSum rounds limit step => exact (onArena (seriesSum rounds limit step)).returning
  | listCreate => exact (onArena createListView).returning
  | listOpen h => exact readingAt h (by simp)
  | onList name command => exact runOnList name command
  | objectCreate => exact (onArena createObjectView).returning
  | objectOpen h => exact readingAt h (by simp)
  | onObject name command => exact runOnObject name command

theorem statement (r : Registry T) {s : Statement} (other : s.command ≠ .config) :
    ByCalls .names (s.run r) := by
  refine (run r other).bind fun answer => ?_
  cases s.keepAs with
  | none => exact pure _
  | some name => exact returning (modify (fun _ => rfl) fun _ _ => rfl)

end ByCalls
end ValueArena
