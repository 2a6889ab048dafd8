import ValueArena.Arena.Reading
import ValueArena.Collection.LinkedList

/-!
A view of a list that remembers its items and contents. What it remembers is dated by the arena's
count of structural writes: a view that is out of date walks the list again before it answers. An
append through an up-to-date view extends it without a walk.
-/
namespace ValueArena

structure ListView where
  header : Descriptor
  items : Array Handle
  values : Array Handle
  /-- The generation that the remembered items belong to, if they are complete. -/
  builtAt : Option UInt64
  deriving DecidableEq, Repr

abbrev ListStep := Step MemoryError (ListView × Arena)

namespace ListView

def handle (v : ListView) : Handle := .stored v.header

def unread (header : Descriptor) : ListView := ⟨header, #[], #[], none⟩

def count (v : ListView) (a : Arena) : Except MemoryError UInt32 := a.listCount v.header

def isFresh (v : ListView) (a : Arena) : Bool := v.builtAt == some a.generation

def addItem (item : Handle) : Step MemoryError ListView Unit :=
  .modify fun v => { v with items := v.items.push item }

def addValue (value : Handle) : Step MemoryError ListView Unit :=
  .modify fun v => { v with values := v.values.push value }

/-- Remembers the item at an address and its content; returns the address of the next. -/
def visit (a : Arena) (addr : Addr) : Step MemoryError ListView Addr := do
  let item ← .view fun _ => a.decode addr
  .view fun _ => (item.require .listItem).map fun _ => ()
  let content ← .view fun _ => a.loadField Addr addr .itemContent
  addItem item
  addValue (← .view fun _ => a.decode content)
  .view fun _ => a.loadField Addr addr .itemNext

/-- Follows `left` of `count` links. -/
def walk (a : Arena) (count : Nat) : Nat → Addr → Step MemoryError ListView Unit
  | 0, _ => pure ()
  | left + 1, addr => do
    if addr.isNull then .fail (.outOfBounds (count - (left + 1)) count)
    walk a count left (← visit a addr)

/-- Walks the list again. A walk that fails leaves what it had found, undated. -/
def refresh (a : Arena) : Step MemoryError ListView Unit := do
  .modify fun v => unread v.header
  let count ← .view (·.count a)
  let first ← .view fun v => a.loadField Addr v.header.addr .listFirst
  walk a count.toNat count.toNat first
  .modify fun v => { v with builtAt := some a.generation }

def ensureFresh (a : Arena) : Step MemoryError ListView Unit := do
  if ← .view fun v => .ok (v.isFresh a) then pure () else refresh a

/-- The view of the list that a handle names. -/
def ofHandle (a : Arena) (h : Handle) : Except MemoryError ListView := do
  let header ← h.require .list
  match refresh a (unread header) with
  | (.ok _, v) => .ok v
  | (.error e, _) => .error e

def create : ArenaStep ListView := do
  let h ← Arena.createList
  .view (ofHandle · h)

/-- Runs a step of the view alone beside the arena that it reads. -/
def reading (x : Arena → Step MemoryError ListView α) : ListStep α := fun (v, a) =>
  let (result, v) := x a v
  (result, (v, a))

/-- Appends a content and returns the new item. -/
def append (content : Handle) : ListStep Handle := do
  let fresh ← .view fun (v, a) => .ok (v.isFresh a)
  let header ← .view fun (v, _) => .ok v.header
  let (item, value) ← .onSecond (Arena.appendItem header content)
  if fresh then
    reading fun a => do
      addItem item
      addValue value
      .modify fun v => { v with builtAt := some a.generation }
  else reading refresh
  pure item

def appendEmpty : ListStep Handle := append .none

def setContent (item content : Handle) : ListStep Unit := do
  let _ ← Step.onSecond (Arena.setItemContent item content)
  reading refresh

def item (a : Arena) (index : Nat) : Step MemoryError ListView Handle := do
  ensureFresh a
  .view fun v =>
    match v.items[index]? with
    | some h => .ok h
    | none => .error (.outOfBounds index v.items.size)

/-- The content of the item at an index. -/
def get (a : Arena) (index : Nat) : Step MemoryError ListView Handle := do
  ensureFresh a
  .view fun v =>
    match v.values[index]? with
    | some h => .ok h
    | none => .error (.outOfBounds index v.values.size)

def setContentAt (index : Nat) (content : Handle) : ListStep Unit := do
  let target ← reading fun a => item a index
  setContent target content

def allItems (a : Arena) : Step MemoryError ListView (Array Handle) := do
  ensureFresh a
  .view fun v => .ok v.items

def allValues (a : Arena) : Step MemoryError ListView (Array Handle) := do
  ensureFresh a
  .view fun v => .ok v.values

/-- The index of the first content that passes. -/
def search (test : Handle → Except MemoryError Bool) : Nat → List Handle →
    Except MemoryError (Option Nat)
  | _, [] => .ok none
  | index, h :: hs => do
    if ← test h then return some index
    search test (index + 1) hs

/-- Whether a content has this text: a string by its bytes, a number as it is written. -/
def hasText (a : Arena) (text : String) (h : Handle) : Except MemoryError Bool :=
  if h.kind = .string then a.hasBytes h (Utf8.encode text)
  else if h.kind.isNumeric then (a.readString h).map (· == text)
  else .ok false

def hasNumber (a : Arena) (number : Binary64) (h : Handle) : Except MemoryError Bool :=
  if h.kind.isNumeric then (a.readDouble h).map (·.equals number) else .ok false

def indexOfText (a : Arena) (text : String) : Step MemoryError ListView (Option Nat) := do
  ensureFresh a
  .view fun v => search (hasText a text) 0 v.values.toList

def indexOfNumber (a : Arena) (number : Binary64) : Step MemoryError ListView (Option Nat) := do
  ensureFresh a
  .view fun v => search (hasNumber a number) 0 v.values.toList

/-- A text with that of one more content; an empty slot adds nothing. -/
def addText (a : Arena) (text : String) (h : Handle) : Except MemoryError String := do
  if h.isNone then return text else return text ++ (← a.readString h)

/-- The texts of the contents, one after the other. -/
def concat (a : Arena) (hs : List Handle) : Except MemoryError String := hs.foldlM (addText a) ""

/-- The text of the whole list; a list without items has none. -/
def toText (a : Arena) : Step MemoryError ListView (Option String) := do
  ensureFresh a
  .view fun v => if v.values.isEmpty then .ok none else (concat a v.values.toList).map some

end ListView
end ValueArena
