import ValueArena.Arena.Arithmetic
import ValueArena.Arena.Assignment
import ValueArena.Arena.Writing
import ValueArena.Proofs.Heap.Typed
import ValueArena.Proofs.Links.Fields
import ValueArena.Proofs.Memory.Ceiling
import ValueArena.Proofs.Mirror.Agree
import ValueArena.Registry

/-!
Two arenas that mirror each other. Reads answer the same on both, and operations keep them mirrors
of each other.
-/
namespace ValueArena

namespace Mirror

/-- The arenas hold the two heaps of the mirror. -/
structure Mirrors (M : Mirror) (a b : Arena) : Prop where
  sound : M.Sound
  left : a.store.Holds M.left
  right : b.store.Holds M.right
  generation : a.generation = b.generation

def arenas : Pairing MemoryError Arena := ⟨MemoryError.lacksMemory, Mirrors⟩

theorem empty_mirrors (config config' : Config) :
    empty.Mirrors (Arena.empty config) (Arena.empty config') :=
  ⟨empty_sound, PageStore.empty_holds config, PageStore.empty_holds config', rfl⟩

variable {M : Mirror} {a b : Arena} {g h : Handle} {x y : Addr} {c d : Cell}

section Reads

variable (mirrors : M.Mirrors a b)
include mirrors

/-- What is read from a handle by its cell alone is the same on both sides. -/
theorem Mirrors.read (same : M.Same g h) {f : Arena → Handle → Except MemoryError α}
    {spec : Cell → Except MemoryError α} (immediate : ∀ v, f a (.immediate v) = f b (.immediate v))
    (vacant : f a .none = f b .none)
    (cell : ∀ {a : Arena} {addr : Addr} {c : Cell}, a.store.Lies addr c →
      f a (.stored ⟨c.kind, c.size, addr⟩) = spec c)
    (alike : ∀ {c d : Cell}, M.Alike c d → spec c = spec d) : f a g = f b h := by
  cases same with
  | immediate v => exact immediate v
  | vacant => exact vacant
  | cell paired left right =>
    obtain ⟨c, d, at_x, at_y, same⟩ := mirrors.sound.cells _ _ paired
    rw [left, right, Heap.handleAt_of_some at_x, Heap.handleAt_of_some at_y,
      cell (mirrors.left.lies at_x), cell (mirrors.right.lies at_y), alike same]

theorem readLong_same (same : M.Same g h) : a.readLong g = b.readLong h :=
  mirrors.read same (fun _ => rfl) rfl Arena.readLong_of_lies fun alike => by cases alike <;> rfl

theorem readDouble_same (same : M.Same g h) : a.readDouble g = b.readDouble h :=
  mirrors.read same (fun _ => rfl) rfl Arena.readDouble_of_lies fun alike => by cases alike <;> rfl

theorem readInteger_same (same : M.Same g h) : a.readInteger g = b.readInteger h :=
  mirrors.read same (fun _ => rfl) rfl Arena.readInteger_of_lies fun alike => by cases alike <;> rfl

theorem readString_same (same : M.Same g h) : a.readString g = b.readString h :=
  mirrors.read same (fun _ => rfl) rfl Arena.readString_of_lies fun alike => by cases alike <;> rfl

theorem readFunction_same (same : M.Same g h) : a.readFunction g = b.readFunction h :=
  mirrors.read same (fun _ => rfl) rfl Arena.readFunction_of_lies
    fun alike => by cases alike <;> rfl

theorem readNativeIndex_same (same : M.Same g h) : a.readNativeIndex g = b.readNativeIndex h :=
  mirrors.read same (fun _ => rfl) rfl Arena.readNativeIndex_of_lies
    fun alike => by cases alike <;> rfl

theorem hasBytes_same (same : M.Same g h) (bytes : List UInt8) :
    a.hasBytes g bytes = b.hasBytes h bytes :=
  mirrors.read (f := fun a h => a.hasBytes h bytes) same (fun _ => rfl) rfl
    (fun lies => Arena.hasBytes_of_lies lies bytes) fun alike => by cases alike <;> rfl

/-- Handles pass for a kind on both sides or on neither. -/
theorem require_same (same : M.Same g h) (k : Kind) :
    Outcome (fun d e => M.To k d.addr e.addr ∧ g = .stored d ∧ h = .stored e) (g.require k)
      (h.require k) := by
  cases same with
  | immediate v => exact .error _
  | vacant => exact .error _
  | cell paired left right =>
    obtain ⟨c, d, at_x, at_y, alike, at_left, at_right⟩ := mirrors.sound.handles paired
    have lies_x := mirrors.left.lies at_x
    have lies_y := mirrors.right.lies at_y
    rw [left, right, at_left, at_right, Arena.require_of_lies lies_x, alike.kind, alike.size,
      Arena.require_of_lies lies_y]
    split
    case isTrue kind => exact .ok ⟨⟨paired, c, at_x, alike.kind.trans kind⟩, rfl, rfl⟩
    case isFalse => exact .error _

/-- A check for a kind lets the same through on both sides. -/
theorem checked_same (same : M.Same g h) (k : Kind) (result : Except MemoryError α) :
    (do let _ ← g.require k; result) = (do let _ ← h.require k; result) := by
  have outcome := require_same mirrors same k
  generalize g.require k = u at outcome
  generalize h.require k = v at outcome
  cases outcome <;> rfl

theorem decode_same (link : M.Link x y) : Outcome M.Same (a.decode x) (b.decode y) := by
  rcases link with ⟨rfl, rfl⟩ | paired
  · exact .ok .vacant
  · obtain ⟨c, d, at_x, at_y, _⟩ := mirrors.sound.cells x y paired
    rw [Arena.decode_of_holds mirrors.left at_x, Arena.decode_of_holds mirrors.right at_y]
    exact .ok (.cell paired rfl rfl)

theorem listFirst_same (pair : M.To .list x y) :
    Outcome M.Next (a.loadField Addr x .listFirst) (b.loadField Addr y .listFirst) := by
  obtain ⟨_, _, _, _, _, at_x, at_y, first, _⟩ := pair.list mirrors.sound
  rw [Arena.load_listFirst (mirrors.left.lies at_x), Arena.load_listFirst (mirrors.right.lies at_y)]
  exact .ok first

theorem listLast_same (pair : M.To .list x y) :
    Outcome M.Next (a.loadField Addr x .listLast) (b.loadField Addr y .listLast) := by
  obtain ⟨_, _, _, _, _, at_x, at_y, _, last⟩ := pair.list mirrors.sound
  rw [Arena.load_listLast (mirrors.left.lies at_x), Arena.load_listLast (mirrors.right.lies at_y)]
  exact .ok last

theorem listCount_same {d e : Descriptor} (pair : M.To .list d.addr e.addr) :
    a.listCount d = b.listCount e := by
  obtain ⟨_, _, _, _, _, at_x, at_y, _⟩ := pair.list mirrors.sound
  rw [Arena.listCount, Arena.listCount, Arena.load_listCount (mirrors.left.lies at_x),
    Arena.load_listCount (mirrors.right.lies at_y)]

theorem itemContent_same (pair : M.To .listItem x y) :
    Outcome M.Link (a.loadField Addr x .itemContent) (b.loadField Addr y .itemContent) := by
  obtain ⟨_, _, _, _, at_x, at_y, content, _⟩ := pair.item mirrors.sound
  rw [Arena.load_itemContent (mirrors.left.lies at_x),
    Arena.load_itemContent (mirrors.right.lies at_y)]
  exact .ok content

theorem itemNext_same (pair : M.To .listItem x y) :
    Outcome M.Next (a.loadField Addr x .itemNext) (b.loadField Addr y .itemNext) := by
  obtain ⟨_, _, _, _, at_x, at_y, _, next⟩ := pair.item mirrors.sound
  rw [Arena.load_itemNext (mirrors.left.lies at_x), Arena.load_itemNext (mirrors.right.lies at_y)]
  exact .ok next

theorem objectKeys_same (pair : M.To .object x y) :
    Outcome (M.To .list) (a.loadField Addr x .objectKeys) (b.loadField Addr y .objectKeys) := by
  obtain ⟨_, _, _, _, at_x, at_y, keys, _⟩ := pair.object mirrors.sound
  rw [Arena.load_objectKeys (mirrors.left.lies at_x),
    Arena.load_objectKeys (mirrors.right.lies at_y)]
  exact .ok keys

theorem objectValues_same (pair : M.To .object x y) :
    Outcome (M.To .list) (a.loadField Addr x .objectValues) (b.loadField Addr y .objectValues) := by
  obtain ⟨_, _, _, _, at_x, at_y, _, values⟩ := pair.object mirrors.sound
  rw [Arena.load_objectValues (mirrors.left.lies at_x),
    Arena.load_objectValues (mirrors.right.lies at_y)]
  exact .ok values

end Reads

section Changes

variable (mirrors : M.Mirrors a b)
include mirrors

/-- Each side gets a cell more. -/
theorem agree_created {p : ArenaStep α} {q : ArenaStep β} (left : α → Handle) (right : β → Handle)
    (alike : M.Alike c d)
    (on_left : (∃ n m, p a = (.error (.allocationFailed n m), a) ∧
      a.store.room.reserve c.bytes.length = none) ∨
      ∃ u a', p a = (.ok u, a') ∧ a.Adds c (left u) a')
    (on_right : (∃ n m, q b = (.error (.allocationFailed n m), b) ∧
      b.store.room.reserve d.bytes.length = none) ∨
      ∃ v b', q b = (.ok v, b') ∧ b.Adds d (right v) b') :
    Agree arenas M p q (fun N u v => N.Same (left u) (right v) ∧
      N.To c.kind (left u).addr (right v).addr) a b := by
  rcases on_left with ⟨n, m, failed, _⟩ | ⟨u, a', made, adds⟩
  · exact agree_lacks_left failed trivial
  rcases on_right with ⟨n, m, failed, _⟩ | ⟨v, b', made', adds'⟩
  · exact agree_lacks_right failed trivial
  have creates := adds.creates mirrors.left
  have creates' := adds'.creates mirrors.right
  have sound := mirrors.sound.add creates.holds.null creates'.holds.null creates.fresh
    creates'.fresh alike
  refine agree_of_apply made made' (leads_add creates.fresh creates'.fresh c d)
    ⟨sound, creates.holds, creates'.holds, ?_⟩ (.ok ⟨.cell (.inr ⟨rfl, rfl⟩) ?_ ?_, to_add ..⟩)
  · rw [creates.generation, creates'.generation, mirrors.generation]
  · exact creates.handle.trans (Heap.handleAt_of_some (Heap.put_self ..)).symm
  · exact creates'.handle.trans (Heap.handleAt_of_some (Heap.put_self ..)).symm

theorem agree_create (content : Content) :
    Agree arenas M (Arena.create content) (Arena.create content)
      (fun N g h => N.Same g h ∧ N.To content.kind g.addr h.addr) a b :=
  agree_created mirrors id id (.plain content)
    (Arena.create_cases mirrors.left.bounded content)
    (Arena.create_cases mirrors.right.bounded content)

theorem agree_createList :
    Agree arenas M Arena.createList Arena.createList
      (fun N g h => N.Same g h ∧ N.To .list g.addr h.addr) a b :=
  agree_created mirrors id id
    (.list (.inl ⟨rfl, rfl⟩) (.inl ⟨rfl, rfl⟩) 0)
    (Arena.createList_cases mirrors.left.bounded) (Arena.createList_cases mirrors.right.bounded)

/-- The cells at a pair of addresses are overwritten. -/
theorem agree_rewritten {p q : ArenaStep Unit} {c' d' : Cell} (paired : M.pairs x y)
    (at_x : M.left x = some c) (at_y : M.right y = some d) (alike : M.Alike c' d')
    (on_left : ∃ a', p a = (.ok (), a') ∧ a.Rewrites (M.left.put x c') a')
    (on_right : ∃ b', q b = (.ok (), b') ∧ b.Rewrites (M.right.put y d') b')
    (same : c'.kind = c.kind) (rewritten : c.kind.isRewritten = true) :
    Agree arenas M p q (fun _ _ _ => True) a b := by
  obtain ⟨a', wrote, rewrites⟩ := on_left
  obtain ⟨b', wrote', rewrites'⟩ := on_right
  obtain ⟨c₀, d₀, at_x₀, at_y₀, before⟩ := mirrors.sound.cells x y paired
  rw [at_x] at at_x₀
  rw [at_y] at at_y₀
  cases at_x₀
  cases at_y₀
  have left := Cell.becomes_of_rewritten same rewritten
  have right := Cell.becomes_of_rewritten (c := d) (d := d')
    (by rw [← alike.kind, same, before.kind]) (by rw [← before.kind, rewritten])
  refine agree_of_apply wrote wrote' (leads_put at_x at_y left right)
    ⟨mirrors.sound.put paired at_x at_y left right alike, rewrites.holds, rewrites'.holds, ?_⟩
    (.ok trivial)
  rw [rewrites.generation, rewrites'.generation, mirrors.generation]

variable {v w : Addr}

theorem agree_listFirst (pair : M.To .list x y) (next : M.Next v w) :
    Agree arenas M (Arena.writeField x .listFirst v) (Arena.writeField y .listFirst w)
      (fun _ _ _ => True) a b := by
  obtain ⟨_, _, _, _, count, at_x, at_y, _, last⟩ := pair.list mirrors.sound
  exact agree_rewritten mirrors pair.1 at_x at_y (.list next last count)
    (Arena.write_listFirst mirrors.left at_x v) (Arena.write_listFirst mirrors.right at_y w) rfl rfl

theorem agree_listLast (pair : M.To .list x y) (next : M.Next v w) :
    Agree arenas M (Arena.writeField x .listLast v) (Arena.writeField y .listLast w)
      (fun _ _ _ => True) a b := by
  obtain ⟨_, _, _, _, count, at_x, at_y, first, _⟩ := pair.list mirrors.sound
  exact agree_rewritten mirrors pair.1 at_x at_y (.list first next count)
    (Arena.write_listLast mirrors.left at_x v) (Arena.write_listLast mirrors.right at_y w) rfl rfl

theorem agree_listCount (pair : M.To .list x y) (count : UInt32) :
    Agree arenas M (Arena.writeField x .listCount count) (Arena.writeField y .listCount count)
      (fun _ _ _ => True) a b := by
  obtain ⟨_, _, _, _, _, at_x, at_y, first, last⟩ := pair.list mirrors.sound
  exact agree_rewritten mirrors pair.1 at_x at_y (.list first last count)
    (Arena.write_listCount mirrors.left at_x count) (Arena.write_listCount mirrors.right at_y count)
    rfl rfl

theorem agree_itemContent (pair : M.To .listItem x y) (link : M.Link v w) :
    Agree arenas M (Arena.writeField x .itemContent v) (Arena.writeField y .itemContent w)
      (fun _ _ _ => True) a b := by
  obtain ⟨_, _, _, _, at_x, at_y, _, next⟩ := pair.item mirrors.sound
  exact agree_rewritten mirrors pair.1 at_x at_y (.item link next)
    (Arena.write_itemContent mirrors.left at_x v) (Arena.write_itemContent mirrors.right at_y w)
    rfl rfl

/-- There is no item at null to write to, on either side. -/
theorem agree_itemNext (item : M.Next x y) (next : M.Next v w) :
    Agree arenas M (Arena.writeField x .itemNext v) (Arena.writeField y .itemNext w)
      (fun _ _ _ => True) a b := by
  rcases item with ⟨rfl, rfl⟩ | pair
  · have failed : ∀ (u : Addr) (a : Arena), Arena.writeField .null .itemNext u a =
        (.error (.invalidAddress .null), a) := fun _ _ => rfl
    exact agree_of_apply (failed v a) (failed w b) (.refl M) mirrors (.error _)
  · obtain ⟨_, _, _, _, at_x, at_y, content, _⟩ := pair.item mirrors.sound
    exact agree_rewritten mirrors pair.1 at_x at_y (.item content next)
      (Arena.write_itemNext mirrors.left at_x v) (Arena.write_itemNext mirrors.right at_y w) rfl rfl

/-- The same number over two of its kind. -/
theorem agree_write [FixedWidth α] {d e : Descriptor} {k : Kind} (pair : M.To k d.addr e.addr)
    {content : α → Content} (numbers : Arena.Numbers k content) (v : α) :
    Agree arenas M (Arena.write d.payload v) (Arena.write e.payload v) (fun _ _ _ => True) a b := by
  obtain ⟨c, c', at_x, at_y, alike, kind⟩ := pair.cells mirrors.sound
  obtain ⟨_, a', rfl, _, wrote, rewrites⟩ :=
    Arena.write_number mirrors.left numbers at_x kind v
  obtain ⟨_, b', rfl, _, wrote', rewrites'⟩ :=
    Arena.write_number mirrors.right numbers at_y (alike.kind.symm.trans kind) v
  exact agree_rewritten mirrors pair.1 at_x at_y (.plain (content v)) ⟨a', wrote, rewrites⟩
    ⟨b', wrote', rewrites'⟩ ((numbers.kind v).trans kind.symm) (by rw [kind, numbers.rewritten])

theorem agree_bumpGeneration :
    Agree arenas M Arena.bumpGeneration Arena.bumpGeneration (fun _ _ _ => True) a b :=
  agree_modify ⟨mirrors.sound, mirrors.left, mirrors.right, congrArg (· + 1) mirrors.generation⟩

end Changes

end Mirror
end ValueArena
