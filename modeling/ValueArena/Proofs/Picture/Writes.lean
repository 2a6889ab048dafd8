import ValueArena.Proofs.Heap.Typed
import ValueArena.Proofs.Links.Append
import ValueArena.Proofs.Memory.Requests
import ValueArena.Proofs.Picture.Sequence

/-!
The writes to lists. An append puts one entry more at the end of one sequence, and a new content
takes the place of an old one in whatever sequence its item belongs to. A write that fails changes
no sequence.
-/
namespace ValueArena

/-- What an item keeps of a handle: a new double for an immediate, the empty slot for anything of
kind none, and any other value itself. -/
def Keeps (before after : Heap) (kept : Handle) : Handle → Prop
  | .immediate v => before kept.addr = none ∧
      after kept.addr = some (.plain (.double (.ofInt v.toInt)))
  | .stored d => kept = if d.kind = .none then .none else .stored d

namespace Arena

/-- The bytes that a content asks for on its way into an item. -/
def promotion : Handle → List Nat
  | .immediate _ => [9]
  | .stored _ => []

/-- The bytes that an append asks for, in order. -/
def appendLengths (content : Handle) : List Nat := promotion content ++ [itemLength]

structure Materializes (a : Arena) (p : Picture) (content kept : Handle) (b : Arena) (q : Picture) :
    Prop where
  shows : b.Shows q
  evolves : p.Evolves [] q
  keeps : Keeps p.heap q.heap kept content
  handle : kept = q.heap.handleAt kept.addr
  held : q.heap.IsContent kept.addr
  cells : ∀ x c, p.heap x = some c → q.heap x = some c
  only : ∀ x, p.heap x = none → x ≠ kept.addr → q.heap x = none
  room : a.store.room.reserveAll (promotion content) = some b.store.room

/-- `b` is `a` with an entry more in one list. -/
structure Appended (a : Arena) (p : Picture) (l : Addr) (content item kept : Handle) (b : Arena)
    (q : Picture) : Prop where
  shows : b.Shows q
  evolves : p.Evolves [.append l ⟨item.addr, kept.addr⟩] q
  fresh : p.heap item.addr = none
  cell : q.heap item.addr = some (.item kept.addr .null)
  item_handle : item = q.heap.handleAt item.addr
  keeps : Keeps p.heap q.heap kept content
  kept_handle : kept = q.heap.handleAt kept.addr
  /-- The header and the items of the list are all that is written of what was there. -/
  stays : ∀ x c, p.heap x = some c → p.Apart l x → q.heap x = some c
  only : ∀ x, p.heap x = none → x ≠ item.addr → x ≠ kept.addr → q.heap x = none
  room : a.store.room.reserveAll (appendLengths content) = some b.store.room

/-- `b` is `a` with another content in one item. -/
structure Refilled (p : Picture) (content : Handle) (item : Addr) (kept : Handle) (b : Arena)
    (q : Picture) : Prop where
  names : ∃ old next, p.heap item = some (.item old next)
  shows : b.Shows q
  evolves : p.Evolves [.replace item kept.addr] q
  keeps : Keeps p.heap q.heap kept content
  kept_handle : kept = q.heap.handleAt kept.addr
  stays : ∀ x c, p.heap x = some c → x ≠ item → q.heap x = some c

variable {a b : Arena} {p q : Picture} {content kept item : Handle}

theorem materialize_cases (shows : a.Shows p) (issued : p.heap.Issued content) :
    (∃ n m, materialize content a = (.error (.allocationFailed n m), a) ∧
      a.store.room.reserveAll (promotion content) = none) ∨
      ∃ kept b q, materialize content a = (.ok (kept.addr, kept), b) ∧
        a.Materializes p content kept b q := by
  cases content with
  | immediate v =>
    rcases create_cases shows.holds.bounded (.double (.ofInt v.toInt)) with
      ⟨n, m, failed, full⟩ | ⟨h, b, made, adds⟩
    · exact .inl ⟨n, m, Step.bind_error failed, (PageStore.Room.reserveAll_single ..).trans full⟩
    · have creates := adds.creates shows.holds
      obtain ⟨shows_b, evolves⟩ := shows.create creates
      refine .inr ⟨h, b, _, ?_, shows_b, evolves, ⟨creates.fresh, Heap.put_self ..⟩,
        creates.handle_eq, .inr ⟨_, Heap.put_self .., nofun⟩,
        fun _ _ found => Heap.put_fresh creates.fresh found _,
        fun _ absent other => (Heap.put_other other).trans absent,
        (PageStore.Room.reserveAll_single ..).trans creates.room⟩
      exact Step.bind_ok made
  | stored d =>
    refine .inr ?_
    by_cases none : d.kind = .none
    · refine ⟨.none, a, p, ?_, shows, .refl p, ?_, ?_, .inl rfl, fun _ _ found => found,
        fun _ absent _ => absent, rfl⟩
      · simp only [materialize, none, if_true]
        rfl
      · simp only [Keeps, none, if_true]
      · exact (Heap.handleAt_of_none shows.formed.null).symm
    · have stored : d.addr ≠ .null := by
        intro null
        have named : p.heap.handleAt d.addr = .stored d := issued
        rw [null, Heap.handleAt_of_none shows.formed.null] at named
        cases named
        exact none rfl
      obtain ⟨c, found, eq⟩ := issued.cell stored
      refine ⟨.stored d, a, p, ?_, shows, .refl p, ?_, ?_, .inr ⟨c, found, ?_⟩,
        fun _ _ found => found, fun _ absent _ => absent, rfl⟩
      · simp only [materialize, none, if_false]
        rfl
      · simp only [Keeps, none, if_false]
      · exact issued.symm
      · intro kind
        exact none (by rw [eq]; exact kind)

/-- What keeps an append to a list of this length from succeeding. -/
def LacksRoom (a : Arena) (content : Handle) (length : Nat) : Prop :=
  length = 0xFFFFFFFF ∨ a.store.wouldFit [promotionSize content, itemLength] = false ∨
    a.store.room.reserveAll (appendLengths content) = none

/-- An append to a list of this length has failed for want of room, and took none but for a new
double. -/
structure Unappended (a : Arena) (content : Handle) (length : Nat) (b : Arena) : Prop where
  lacks : a.LacksRoom content length
  room : promotion content = [] → b.store.room = a.store.room

/-- The check before an append is one of just what it asks for. -/
theorem wouldFit_appendLengths (s : PageStore) (content : Handle) :
    s.wouldFit [promotionSize content, itemLength] = s.wouldFit (appendLengths content) := by
  cases content with
  | immediate v => rfl
  | stored d =>
    simp only [promotionSize, appendLengths, promotion, List.nil_append, PageStore.wouldFit]
    rw [PageStore.wouldFitFrom, if_pos (Nat.zero_le _), Nat.sub_zero]

theorem keeps_of_plain {before heap heap' : Heap} (keeps : Keeps before heap kept content)
    (same : ∀ x content, heap x = some (.plain content) → heap' x = some (.plain content)) :
    Keeps before heap' kept content := by
  cases content with
  | immediate v => exact ⟨keeps.1, same _ _ keeps.2⟩
  | stored d => exact keeps

/-- `b` is `a` with an item that was there at the end of a list. -/
structure Attached (p : Picture) (l : Addr) (e : Entry) (b : Arena) (q : Picture) : Prop where
  shows : b.Shows q
  evolves : p.Evolves [.append l e] q
  fresh : p.heap e.item = none
  cell : q.heap e.item = some (.item e.content .null)
  plain : ∀ x c, p.heap x = some (.plain c) → q.heap x = some (.plain c)
  others : ∀ x, x ≠ e.item → p.Apart l x → q.heap x = p.heap x

/-- Linking a new item and counting it appends its entry. -/
theorem Shows.link (shows : a.Shows p) {d : Descriptor} {l content : Addr} {count : UInt32}
    {first last : Addr} (list : p.heap l = some (.list first last count))
    (small : count.toNat < 0xFFFFFFFF)
    (held : p.heap.IsContent content)
    (creates : Creates a p.heap (.item content .null) (.stored d) b) :
    ∃ b₁ b₂ q, linkItem l d.addr b = (.ok (), b₁) ∧
      writeField l .listCount (count + 1) b₁ = (.ok (), b₂) ∧
      Attached p l ⟨d.addr, content⟩ { b₂ with generation := b₂.generation + 1 } q ∧
      b₂.store.room = b.store.room := by
  obtain ⟨b₁, heap₁, linked, rewrites, follows⟩ :=
    linkItem_ok shows.formed creates.fresh creates.holds list
  obtain ⟨b₂, counted, counts⟩ := write_listCount rewrites.holds follows.header (count + 1)
  -- The links are written before the count, and only both together append the entry.
  have whole := rewrites.trans counts
  obtain ⟨_, _, length⟩ := shows.formed.header l first last count list
  have apart := (Heap.ne_of_fresh list creates.fresh).symm
  have appends : p.heap.Appends p.lists l ⟨d.addr, content⟩
      (heap₁.put l (.list (itemAt (p.lists l ++ [⟨d.addr, content⟩]) 0) d.addr (count + 1))) := by
    refine ⟨creates.fresh, ⟨_, _, _, list⟩, ?_, ⟨count + 1, Heap.put_self .., ?_⟩, ?_, ?_⟩
    · exact (Heap.put_other apart).trans follows.new
    · have one : (1 : UInt32).toNat = 1 := rfl
      rw [UInt32.toNat_add, one, Nat.mod_eq_of_lt (by omega), length]
    · intro f at_last
      have other := Heap.ne_of_cells (shows.formed.item l _ f at_last) list nofun
      exact (Heap.put_other other).trans (follows.links f at_last)
    · intro x not_item not_list not_last
      exact (Heap.put_other not_list).trans (follows.others x not_item not_list not_last)
  have grows := appends.grows shows.formed
  refine ⟨b₁, b₂, ⟨_, fun m => Change.on m (p.lists m) (.append l ⟨d.addr, content⟩), p.writes + 1,
    b.store.room⟩, linked, counted, ⟨⟨whole.holds, ?_, ?_, whole.room⟩,
    ⟨grows, fun _ => rfl, rfl, ?_, shows.room_leads creates⟩, creates.fresh, appends.new, ?_, ?_⟩,
    whole.room⟩
  · exact shows.formed.append appends whole.holds.null (grows.isContent held)
  · change b₂.generation + 1 = _
    rw [whole.generation, creates.generation, shows.generation, UInt64.ofNat_add]
    rfl
  · intro o keys values found
    exact .inl (appends.object_before found)
  · intro x c found
    exact appends.plain_kept shows.formed found
  · intro x not_item apart
    exact appends.others x not_item apart.1 fun f last => apart.2 f (List.mem_of_getElem? last)

/-- A content that is materialized and then linked is appended. -/
theorem Attached.appended {a₁ : Arena} {p₁ : Picture} {l : Addr} {d : Descriptor}
    (attached : Attached p₁ l ⟨d.addr, kept.addr⟩ b q)
    (materializes : a.Materializes p content kept a₁ p₁)
    (named : d = ⟨.listItem, (Cell.item kept.addr .null).size, d.addr⟩) (list : p.heap.IsList l)
    (room : a.store.room.reserveAll (appendLengths content) = some b.store.room) :
    a.Appended p l content (.stored d) kept b q := by
  have same := materializes.evolves.lists_eq
  constructor
  case shows => exact attached.shows
  case evolves => exact materializes.evolves.quiet_trans attached.evolves
  case fresh => exact materializes.evolves.fresh attached.fresh
  case cell => exact attached.cell
  case item_handle =>
    rw [named]
    exact (Heap.handleAt_of_some attached.cell).symm
  case keeps => exact keeps_of_plain materializes.keeps attached.plain
  case kept_handle =>
    exact attached.evolves.grows.eq_handleAt attached.shows.formed.null materializes.handle
  case stays =>
    intro x c found apart
    have found₁ := materializes.cells x c found
    rw [Picture.Apart, ← same] at apart
    exact (attached.others x (Heap.ne_of_fresh found₁ attached.fresh) apart).trans found₁
  case only =>
    intro x absent not_item not_kept
    have absent₁ := materializes.only x absent not_kept
    obtain ⟨_, _, _, at_l⟩ := materializes.evolves.grows.isList list
    have not_list := (Heap.ne_of_fresh at_l absent₁).symm
    refine (attached.others x not_item ⟨not_list, fun e member => ?_⟩).trans absent₁
    obtain ⟨i, at_i⟩ := List.getElem?_of_mem member
    exact (Heap.ne_of_fresh (materializes.shows.formed.item _ i e at_i) absent₁).symm
  case room => exact room

theorem item_length (content next : Addr) : (Cell.item content next).bytes.length = itemLength := by
  simp [Cell.bytes_length, Cell.payload, FixedWidth.length_encode]
  rfl

/-- What an append asks for once its content is materialized is its item. -/
theorem Materializes.reserveAll (materializes : a.Materializes p content kept b q) :
    a.store.room.reserveAll (appendLengths content) =
      b.store.room.reserve (Cell.item kept.addr .null).bytes.length := by
  rw [appendLengths, PageStore.Room.reserveAll_append, materializes.room, Option.bind_some,
    PageStore.Room.reserveAll_single, item_length]

/-- An append that has passed its checks adds an entry, or finds no room after all and changes no
list. -/
theorem addItem_cases (shows : a.Shows p) {list : Descriptor} {first last : Addr} {count : UInt32}
    (at_list : p.heap list.addr = some (.list first last count)) (small : count.toNat < 0xFFFFFFFF)
    (issued : p.heap.Issued content) :
    (∃ n m b q, addItem list count content a = (.error (.allocationFailed n m), b) ∧ b.Shows q ∧
      p.Evolves [] q ∧ a.store.room.reserveAll (appendLengths content) = none ∧
      (promotion content = [] → b.store.room = a.store.room)) ∨
    ∃ item kept b q, addItem list count content a = (.ok (item, kept), b) ∧
      a.Appended p list.addr content item kept b q := by
  rcases materialize_cases shows issued with
    ⟨n, m, failed, full⟩ | ⟨kept, a₁, p₁, made, materializes⟩
  · refine .inl ⟨n, m, a, p, Step.bind_error failed, shows, .refl p, ?_, fun _ => rfl⟩
    rw [appendLengths, PageStore.Room.reserveAll_append, full]
    rfl
  have room := materializes.reserveAll
  rcases createPair_cases materializes.shows.holds.bounded (.item kept.addr .null) .itemContent
      .itemNext kept.addr Addr.null nofun rfl rfl rfl with
    ⟨n, m, failed, full⟩ | ⟨d, a₂, created, adds⟩
  · refine .inl ⟨n, m, a₁, p₁, (Step.bind_ok made).trans (Step.bind_error failed),
      materializes.shows, materializes.evolves, room.trans full, ?_⟩
    intro nothing
    have given := materializes.room
    rw [nothing] at given
    exact (Option.some.inj given).symm
  · have creates := adds.creates materializes.shows.holds
    obtain ⟨b₁, b₂, q, wrote_links, wrote_count, attached, same⟩ :=
      materializes.shows.link (materializes.cells _ _ at_list) small materializes.held creates
    refine .inr ⟨.stored d, kept, _, q, ?_, attached.appended materializes
      (Handle.stored.inj creates.handle) ⟨_, _, _, at_list⟩ ?_⟩
    · apply (Step.bind_ok made).trans
      apply (Step.bind_ok created).trans
      rw [Step.bind_ok wrote_links, Step.bind_ok wrote_count]
      rfl
    · exact room.trans (creates.room.trans (congrArg some same.symm))

section

variable {list : Descriptor} {count : UInt32} (counted : a.listCount list = .ok count)
include counted

/-- A list that has as many items as its count can tell takes no other. -/
theorem appendItem_full (full : ¬ count.toNat < 0xFFFFFFFF) :
    appendItem list content a = (.error (.allocationFailed 16 a.spaceOccupied), a) := by
  simp only [appendItem, Step.view_bind, counted, full, if_false]

/-- An append that the check refuses does nothing. -/
theorem appendItem_refused (small : count.toNat < 0xFFFFFFFF)
    (unfit : a.store.wouldFit [promotionSize content, itemLength] = false) :
    appendItem list content a =
      (.error (.allocationFailed (promotionSize content + itemLength) a.spaceOccupied), a) := by
  simp only [appendItem, Step.view_bind, counted, small, unfit, if_true, Bool.false_eq_true,
    if_false]

theorem appendItem_admitted (small : count.toNat < 0xFFFFFFFF)
    (fits : a.store.wouldFit [promotionSize content, itemLength] = true) :
    appendItem list content a = addItem list count content a := by
  simp only [appendItem_eq, Step.view_bind, counted, small, fits, if_true]

end

/-- An append adds an entry, or fails and changes no list. -/
theorem appendItem_cases (shows : a.Shows p) {list : Descriptor} (header : p.heap.IsList list.addr)
    (issued : p.heap.Issued content) :
    (∃ n m b q, appendItem list content a = (.error (.allocationFailed n m), b) ∧ b.Shows q ∧
      p.Evolves [] q ∧ a.Unappended content (p.lists list.addr).length b) ∨
    ∃ item kept b q, appendItem list content a = (.ok (item, kept), b) ∧
      a.Appended p list.addr content item kept b q := by
  obtain ⟨first, last, count, at_list⟩ := header
  have counted : a.listCount list = .ok count := load_listCount (shows.holds.lies at_list)
  obtain ⟨_, _, length⟩ := shows.formed.header _ first last count at_list
  by_cases small : count.toNat < 0xFFFFFFFF
  · cases fits : a.store.wouldFit [promotionSize content, itemLength] with
    | false =>
      exact .inl ⟨_, _, a, p, appendItem_refused counted small fits, shows, .refl p,
        .inr (.inl fits), fun _ => rfl⟩
    | true =>
      rw [appendItem_admitted counted small fits]
      rcases addItem_cases shows at_list small issued with
        ⟨n, m, b, q, failed, shows_q, evolves, full, room⟩ | appended
      · exact .inl ⟨n, m, b, q, failed, shows_q, evolves, .inr (.inr full), room⟩
      · exact .inr appended
  · refine .inl ⟨_, _, a, p, appendItem_full counted small, shows, .refl p, .inl ?_, fun _ => rfl⟩
    have := count.toNat_lt
    omega

/-- An item that is made to hold a materialized content holds what it keeps of it. -/
theorem Materializes.refill {a₁ : Arena} {p₁ : Picture} {x old next : Addr}
    (materializes : a.Materializes p content kept a₁ p₁) (found : p.heap x = some (.item old next))
    (rewrites : a₁.Rewrites (p₁.heap.put x (.item kept.addr next)) b) :
    ∃ q, Refilled p content x kept { b with generation := b.generation + 1 } q := by
  have still := materializes.cells _ _ found
  have grows := Heap.grows_put still
    (Cell.becomes_of_rewritten (d := .item kept.addr next) rfl rfl)
  have null := rewrites.holds.null
  refine ⟨⟨p₁.heap.put x (.item kept.addr next),
    fun m => Change.on m (p₁.lists m) (.replace x kept.addr), p₁.writes + 1, p₁.room⟩, ?_⟩
  constructor
  case names => exact ⟨old, next, found⟩
  case shows =>
    refine ⟨rewrites.holds, ?_, ?_, rewrites.room.trans materializes.shows.room⟩
    · exact materializes.shows.formed.replace still null grows rfl
        (grows.isContent materializes.held)
    · change b.generation + 1 = _
      rw [rewrites.generation, materializes.shows.generation, UInt64.ofNat_add]
      rfl
  case evolves =>
    refine materializes.evolves.quiet_trans ⟨grows, fun _ => rfl, rfl, ?_, .refl _⟩
    intro o keys values at_o
    rcases Heap.put_eq_some at_o with ⟨_, eq⟩ | ⟨_, before⟩
    · cases eq
    · exact .inl before
  case keeps =>
    apply keeps_of_plain materializes.keeps
    intro y c at_y
    exact (Heap.put_other (Heap.ne_of_cells at_y still nofun)).trans at_y
  case kept_handle => exact grows.eq_handleAt null materializes.handle
  case stays =>
    intro y c at_y other
    exact (Heap.put_other other).trans (materializes.cells y c at_y)

/-- Why a handle has not taken a content: it names no item, or there is no room for a new double. -/
inductive Unfilled (a : Arena) (item : Handle) : Handle → MemoryError → Prop
  | noItem (content e) (required : item.require .listItem = .error e) : Unfilled a item content e
  | noRoom (v n m) (full : a.store.room.reserve 9 = none) :
      Unfilled a item (.immediate v) (.allocationFailed n m)

/-- A new content takes the place of the old one, or nothing changes. -/
theorem setItemContent_cases (shows : a.Shows p) (issued_item : p.heap.Issued item)
    (issued : p.heap.Issued content) :
    (∃ e, setItemContent item content a = (.error e, a) ∧ a.Unfilled item content e) ∨
      ∃ kept b q, setItemContent item content a = (.ok kept, b) ∧
        Refilled p content item.addr kept b q := by
  cases required : item.require .listItem with
  | error e =>
    refine .inl ⟨e, ?_, .noItem content e required⟩
    simp only [setItemContent, Step.view_bind, required]
  | ok d =>
    obtain ⟨c, found, kind, rfl, _⟩ := issued_item.require required
    obtain ⟨old, next, rfl⟩ := Cell.eq_item_of_kind kind
    rcases materialize_cases shows issued with
      ⟨n, m, failed, full⟩ | ⟨kept, a₁, p₁, made, materializes⟩
    · refine .inl ⟨.allocationFailed n m, ?_, ?_⟩
      · simp only [setItemContent, Step.view_bind, required]
        exact Step.bind_error failed
      · cases content with
        | immediate v => exact .noRoom v n m ((PageStore.Room.reserveAll_single ..).symm.trans full)
        | stored d => cases full
    · obtain ⟨b, wrote, rewrites⟩ := write_itemContent materializes.shows.holds
        (materializes.cells _ _ found) kept.addr
      obtain ⟨q, refills⟩ := materializes.refill found rewrites
      refine .inr ⟨kept, _, q, ?_, refills⟩
      simp only [setItemContent, Step.view_bind, required]
      apply (Step.bind_ok made).trans
      rw [Step.bind_ok wrote]
      rfl

/-- A handle of a cell that was not there before. -/
theorem Shows.makes (shows : a.Shows p) (shows_b : b.Shows q) {h : Handle} {c : Cell}
    (fresh : p.heap h.addr = none) (found : q.heap h.addr = some c)
    (named : h = q.heap.handleAt h.addr) : a.Makes b h := by
  refine ⟨(vacant_iff shows.holds).mpr fresh, ?_⟩
  rw [decode_of_holds shows_b.holds found, ← named]

theorem stores_of_keeps (shows : a.Shows p) (shows_b : b.Shows q)
    (keeps : Keeps p.heap q.heap kept content) (named : kept = q.heap.handleAt kept.addr) :
    a.Stores b content kept.addr := by
  cases content with
  | immediate v =>
    obtain ⟨fresh, found⟩ := keeps
    refine ⟨kept, rfl, shows.makes shows_b fresh found named, ?_, ?_⟩
    · rw [named, Heap.handleAt_of_some found]
      rfl
    · rw [named]
      exact readDouble_of_holds shows_b.holds found
  | stored d =>
    have kept_eq : kept = if d.kind = .none then .none else .stored d := keeps
    rw [kept_eq]
    change Handle.addr (if _ then _ else _) = if _ then _ else _
    split <;> rfl

theorem Appended.makes {l : Addr} (appends : a.Appended p l content item kept b q)
    (shows : a.Shows p) : a.Makes b item :=
  shows.makes appends.shows appends.fresh appends.cell appends.item_handle

end Arena
end ValueArena
