import ValueArena.Collection.ListView

/-!
A view of an object: insertion-ordered keys and their values, kept as two lists. Keys are found by a
scan from the first, so of equal keys the first one counts.
-/
namespace ValueArena

structure ObjectView where
  header : Descriptor
  keys : ListView
  values : ListView
  deriving DecidableEq, Repr

abbrev ObjectStep := Step MemoryError (ObjectView × Arena)

namespace ObjectView

def handle (o : ObjectView) : Handle := .stored o.header

/-- The view of the object that a handle names, with views of both its lists. -/
def ofHandle (a : Arena) (h : Handle) : Except MemoryError ObjectView := do
  let header ← h.require .object
  let keys ← a.loadField Addr header.addr .objectKeys
  let values ← a.loadField Addr header.addr .objectValues
  let keys ← ListView.ofHandle a (← a.decode keys)
  let values ← ListView.ofHandle a (← a.decode values)
  return ⟨header, keys, values⟩

def create : ArenaStep ObjectView := do
  let h ← Arena.createObject
  .view (ofHandle · h)

def size (o : ObjectView) (a : Arena) : Except MemoryError UInt32 := o.keys.count a

def onKeys (x : Step MemoryError ListView α) : Step MemoryError ObjectView α :=
  .within keys (fun v o => { o with keys := v }) x

def onValues (x : Step MemoryError ListView α) : Step MemoryError ObjectView α :=
  .within values (fun v o => { o with values := v }) x

def reading (x : Arena → Step MemoryError ObjectView α) : ObjectStep α := fun (o, a) =>
  let (result, o) := x a o
  (result, (o, a))

def changingKeys (x : ListStep α) : ObjectStep α :=
  .within (fun (o, a) => (o.keys, a)) (fun (v, a) (o, _) => ({ o with keys := v }, a)) x

def changingValues (x : ListStep α) : ObjectStep α :=
  .within (fun (o, a) => (o.values, a)) (fun (v, a) (o, _) => ({ o with values := v }, a)) x

/-- Adds a key with an empty slot and returns the slot's item. Space for the key and both items is
asked for before anything is written. -/
def addKey (key : String) : ObjectStep Handle := do
  let length := 5 + (Utf8.encode key).length
  .onSecond <| .view fun a =>
    if a.store.wouldFit [length, Arena.itemLength, Arena.itemLength] then .ok ()
    else .error (.allocationFailed (length + 2 * Arena.itemLength) a.spaceOccupied)
  let text ← .onSecond (Arena.createString key)
  let _ ← changingKeys (ListView.append text)
  changingValues ListView.appendEmpty

def indexOf (a : Arena) (key : String) : Step MemoryError ObjectView (Option Nat) :=
  onKeys (ListView.indexOfText a key)

def position (a : Arena) (key : String) : Step MemoryError ObjectView Nat := do
  match ← indexOf a key with
  | some index => pure index
  | none => .fail (.keyNotFound key)

def hasKey (a : Arena) (key : String) : Step MemoryError ObjectView Bool := do
  return (← indexOf a key).isSome

/-- The item of the slot under a key. -/
def slot (a : Arena) (key : String) : Step MemoryError ObjectView Handle := do
  let index ← position a key
  onValues (ListView.item a index)

def get (a : Arena) (key : String) : Step MemoryError ObjectView Handle := do
  let index ← position a key
  onValues (ListView.get a index)

def setSlot (item value : Handle) : ObjectStep Unit :=
  changingValues (ListView.setContent item value)

/-- Never adds a key. -/
def set (key : String) (value : Handle) : ObjectStep Unit := do
  let index ← reading fun a => position a key
  changingValues (ListView.setContentAt index value)

end ObjectView
end ValueArena
