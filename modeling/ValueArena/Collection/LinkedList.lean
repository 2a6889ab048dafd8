import ValueArena.Arena.Creation

/-!
Linked lists in the arena. A list's header holds its first and last item and their count; an item
holds the address of its content and of the next item. Contents are shared, not copied.
-/
namespace ValueArena.Arena

/-- The address that an item stores for a content, and the handle it then reads as. An immediate
becomes a new double; everything of kind none becomes the empty slot. -/
def materialize : Handle → ArenaStep (Addr × Handle)
  | .immediate v => do
    let h ← createDouble (.ofInt v.toInt)
    pure (h.addr, h)
  | .stored d => pure (if d.kind = .none then (.null, .none) else (d.addr, .stored d))

/-- Bytes that `materialize` takes. -/
def promotionSize : Handle → Nat
  | .immediate _ => 9
  | .stored _ => 0

/-- The bytes of an item, its tag included. -/
def itemLength : Nat := 17

def listCount (a : Arena) (list : Descriptor) : Except MemoryError UInt32 :=
  a.loadField UInt32 list.addr .listCount

/-- Makes the item the last one of the list, after the one that was. -/
def linkItem (list item : Addr) : ArenaStep Unit := do
  let first ← .view (·.loadField Addr list .listFirst)
  if first.isNull then writeField list .listFirst item
  else
    let last ← .view (·.loadField Addr list .listLast)
    writeField last .itemNext item
  writeField list .listLast item

/-- Appends a new item; returns it and the content it holds. Space for all of it is asked for
before anything is written. -/
def appendItem (list : Descriptor) (content : Handle) : ArenaStep (Handle × Handle) := do
  let count ← .view (·.listCount list)
  .view fun a =>
    if count.toNat < 0xFFFFFFFF then .ok () else .error (.allocationFailed 16 a.spaceOccupied)
  .view fun a =>
    if a.store.wouldFit [promotionSize content, itemLength] then .ok ()
    else .error (.allocationFailed (promotionSize content + itemLength) a.spaceOccupied)
  let (contentAddr, content) ← materialize content
  let item ← allocate .listItem Kind.listItem.fixedSize
  writeField item.addr .itemContent contentAddr
  writeField item.addr .itemNext Addr.null
  linkItem list.addr item.addr
  writeField list.addr .listCount (count + 1)
  bumpGeneration
  pure (.stored item, content)

/-- Makes an item hold another content, and returns it as stored. -/
def setItemContent (item content : Handle) : ArenaStep Handle := do
  let d ← .view fun _ => item.require .listItem
  let (contentAddr, content) ← materialize content
  writeField d.addr .itemContent contentAddr
  bumpGeneration
  pure content

end ValueArena.Arena
