import ValueArena.Proofs.Links.Append
import ValueArena.Proofs.Mirror.Arena

/-!
The operations of two arenas that mirror each other: overwriting numbers, computing, assigning, new
objects, and the writes to a list. Each agrees with itself, wherever its values lie on either side.
-/
namespace ValueArena

namespace Mirror

variable {M N : Mirror} {a b : Arena} {g h g' h' : Handle} {x y : Addr} {c d : Cell}

/-- Two literals that are the same, or two handles. -/
inductive Offers (M : Mirror) : Source → Source → Prop
  | number (v : Binary64) : Offers M (.number v) (.number v)
  | text (v : String) : Offers M (.text v) (.text v)
  | handle {g h : Handle} (same : M.Same g h) : Offers M (.handle g) (.handle h)

theorem Offers.kind {s t : Source} (offers : M.Offers s t) (sound : M.Sound) : s.kind = t.kind := by
  cases offers with
  | number v => rfl
  | text v => rfl
  | handle same => exact same.kind sound

section

variable (mirrors : M.Mirrors a b)
include mirrors

theorem agree_createPair {f f' : Field} {u v u' v' : Addr} (alike : M.Alike c d)
    (fixed : c.kind ≠ .string) (left : c.payload = FixedWidth.encode u ++ FixedWidth.encode v)
    (right : d.payload = FixedWidth.encode u' ++ FixedWidth.encode v') (first : f.distance = 1)
    (second : f'.distance = 9) :
    Agree arenas M (Arena.createPair c.kind f f' u v) (Arena.createPair c.kind f f' u' v')
      (fun N d e => N.Same (.stored d) (.stored e) ∧ N.To c.kind d.addr e.addr) a b := by
  refine agree_created mirrors Handle.stored Handle.stored alike
    (Arena.createPair_cases mirrors.left.bounded c f f' u v fixed left first second) ?_
  rw [alike.kind] at fixed ⊢
  exact Arena.createPair_cases mirrors.right.bounded d f f' u' v' fixed right first second

theorem agree_createObject :
    Agree arenas M Arena.createObject Arena.createObject
      (fun N g h => N.Same g h ∧ N.To .object g.addr h.addr) a b := by
  rw [Arena.createObject_eq]
  refine (agree_createList mirrors).bind ?_
  intro N a b keys keys' _ (mirrors : N.Mirrors a b) ⟨_, at_keys⟩
  refine (agree_createList mirrors).bind ?_
  intro N' a b values values' leads (mirrors : N'.Mirrors a b) ⟨_, at_values⟩
  have alike := Alike.object (at_keys.leads leads) at_values
  exact (agree_createPair mirrors alike nofun rfl rfl rfl rfl).map fun _ _ _ made => made

theorem agree_setPayload [FixedWidth α] {k : Kind} {content : α → Content} (same : M.Same g h)
    (numbers : Arena.Numbers k content) (v : α) :
    Agree arenas M (Arena.setPayload k g v) (Arena.setPayload k h v) (fun _ _ _ => True) a b :=
  agree_view_bind mirrors (require_same mirrors same k) fun _ _ named =>
    agree_write mirrors named.1 numbers v

/-- A right operand that is no literal is read like any number. -/
theorem operand_same {s t : Source} (target : M.Same g h) (offers : M.Offers s t) :
    a.operand g s = b.operand h t := by
  have kinds := target.kind mirrors.sound
  cases offers with
  | number v => rfl
  | text v => simp only [Arena.operand, kinds]
  | handle same =>
    simp only [Arena.operand, kinds, Source.kind, same.kind mirrors.sound,
      readDouble_same mirrors same]

theorem double_same {d e : Descriptor} (pair : M.To .double d.addr e.addr) :
    a.load Binary64 d.payload = b.load Binary64 e.payload := by
  obtain ⟨c, d, at_x, at_y, alike, kind⟩ := pair.cells mirrors.sound
  cases alike with
  | plain content =>
    cases content with
    | double v =>
      have left : a.load Binary64 d.payload = .ok v :=
        (mirrors.left.lies at_x).load_payload rfl (by decide)
      have right : b.load Binary64 e.payload = .ok v :=
        (mirrors.right.lies at_y).load_payload rfl (by decide)
      exact left.trans right.symm
    | _ => cases kind
  | list | item | object => cases kind

theorem agree_apply {s t : Source} (op : Operation) (same : M.Same g h) (offers : M.Offers s t) :
    Agree arenas M (Arena.apply op g s) (Arena.apply op h t) (fun _ v w => v = w) a b := by
  refine agree_view_bind mirrors (require_same mirrors same .double) ?_
  rintro d e ⟨pair, rfl, rfl⟩
  refine agree_view_bind mirrors (outcome_of_eq (operand_same mirrors same offers)) ?_
  rintro right _ rfl
  refine agree_view_bind mirrors (outcome_of_eq (double_same mirrors pair)) ?_
  rintro left _ rfl
  exact (agree_write mirrors pair Arena.doubles _).map fun _ _ _ _ => rfl

theorem agree_number {s t : Source} (offers : M.Offers s t) (unsupported : MemoryError)
    (ofLiteral : Binary64 → α) {read : Arena → Handle → Except MemoryError α}
    (same : ∀ {g h : Handle}, M.Same g h → read a g = read b h) :
    Agree arenas M (Assignment.number unsupported ofLiteral read s)
      (Assignment.number unsupported ofLiteral read t) (fun _ v w => v = w) a b := by
  cases offers with
  | number v => exact agree_pure mirrors rfl
  | text v => exact agree_fail mirrors unsupported
  | handle here =>
    simp only [Assignment.number, here.kind mirrors.sound]
    split
    · exact agree_view mirrors (outcome_of_eq (same here))
    · exact agree_fail mirrors unsupported

/-- A number from a source written over the target's. -/
theorem agree_overwrite [FixedWidth α] {d e : Descriptor} {k : Kind} (pair : M.To k d.addr e.addr)
    (old : M.Same g h) {content : α → Content} (numbers : Arena.Numbers k content)
    {p q : ArenaStep α} (number : Agree arenas M p q (fun _ v w => v = w) a b) :
    Agree arenas M (do Arena.write d.payload (← p); pure g) (do Arena.write e.payload (← q); pure h)
      Same a b := by
  refine number.bind ?_
  rintro N a b v _ leads (later : N.Mirrors a b) rfl
  refine (agree_write later (pair.leads leads) numbers v).bind ?_
  intro P a b _ _ leads' (later' : P.Mirrors a b) _
  exact agree_pure later' ((old.leads leads mirrors.sound).leads leads' later.sound)

theorem agree_createDouble (v : Binary64) :
    Agree arenas M (Arena.createDouble v) (Arena.createDouble v) Same a b :=
  (agree_create mirrors (.double v)).imp fun _ _ _ _ _ made => made.1

theorem agree_createString (v : String) :
    Agree arenas M (Arena.createString v) (Arena.createString v) Same a b :=
  (agree_create mirrors (.string v)).imp fun _ _ _ _ _ made => made.1

/-- What the target comes to name is the same on both sides. -/
theorem agree_target {s t : Source} (old : M.Same g h) (offers : M.Offers s t) :
    Agree arenas M (Assignment.target g s) (Assignment.target h t) Same a b := by
  unfold Assignment.target
  -- Both targets are of one kind, and so are both sources, so one branch is taken on both sides.
  rw [← old.kind mirrors.sound, ← offers.kind mirrors.sound]
  dsimp only
  split
  · cases offers with
    | number v => exact agree_createDouble mirrors v
    | text v => exact agree_createString mirrors v
    | handle same =>
      simp only [← same.kind mirrors.sound]
      split
      · refine agree_view_bind mirrors (outcome_of_eq (readDouble_same mirrors same)) ?_
        rintro v _ rfl
        exact agree_createDouble mirrors v
      · split
        · exact agree_pure mirrors same
        · exact agree_fail mirrors _
  · refine (agree_number mirrors offers _ _ (readLong_same mirrors)).map ?_
    rintro N v _ rfl
    exact .immediate v
  · refine agree_view_bind mirrors (require_same mirrors old .integer) fun d e named => ?_
    exact agree_overwrite mirrors named.1 old Arena.integers
      (agree_number mirrors offers _ _ (readInteger_same mirrors))
  · refine agree_view_bind mirrors (require_same mirrors old .double) fun d e named => ?_
    exact agree_overwrite mirrors named.1 old Arena.doubles
      (agree_number mirrors offers _ _ (readDouble_same mirrors))
  · cases offers with
    | number v => exact agree_createString mirrors v.text
    | text v => exact agree_createString mirrors v
    | handle same =>
      simp only [← same.kind mirrors.sound]
      split
      · refine agree_view_bind mirrors (outcome_of_eq (readString_same mirrors same)) ?_
        rintro v _ rfl
        exact agree_createString mirrors v
      · exact agree_fail mirrors _
  · exact agree_fail mirrors _

/-- Both targets name what their assignment came to, or both stay. -/
theorem agree_assign {s t : Source} (old : M.Same g h) (offers : M.Offers s t) :
    Agree arenas M (.starting g (assign s)) (.starting h (assign t)) (fun N u v => N.Same u.2 v.2)
      a b := by
  have ran : ∀ (h : Handle) (s : Source),
      (Step.starting h (assign s) : ArenaStep (Unit × Handle)) =
        (do return ((), ← Assignment.target h s)) := by
    intro h s
    funext a
    obtain ⟨result, b, ran⟩ : ∃ result b, Assignment.target h s a = (result, b) := ⟨_, _, rfl⟩
    rw [Step.bind_pure_apply ran]
    cases result <;> simp only [Step.starting, assign, ran] <;> rfl
  rw [ran, ran]
  exact (agree_target mirrors old offers).map fun _ _ _ same => same

/-- The address that an item is to hold, and the handle it then reads as. -/
theorem agree_materialize (same : M.Same g h) :
    Agree arenas M (Arena.materialize g) (Arena.materialize h)
      (fun N u v => N.Link u.1 v.1 ∧ N.Same u.2 v.2) a b := by
  have none : M.Link .null .null ∧ M.Same .none .none := ⟨.inl ⟨rfl, rfl⟩, .vacant⟩
  cases same with
  | immediate v =>
    exact (agree_create mirrors (.double (.ofInt v.toInt))).map
      fun _ _ _ made => ⟨.inr made.2.1, made.1⟩
  | vacant => exact agree_pure mirrors none
  | cell paired left right =>
    obtain ⟨c, d, _, _, _, at_left, at_right⟩ := mirrors.sound.handles paired
    have same := Same.cell paired left right
    rw [left, right, at_left, at_right] at same ⊢
    simp only [Arena.materialize]
    split
    case isTrue => exact agree_pure mirrors none
    case isFalse => exact agree_pure mirrors ⟨.inr paired, same⟩

/-- An item comes last on both sides. -/
theorem agree_linkItem {l m : Addr} (list : M.To .list l m) (item : M.To .listItem x y) :
    Agree arenas M (Arena.linkItem l x) (Arena.linkItem m y) (fun _ _ _ => True) a b := by
  unfold Arena.linkItem
  refine agree_view_bind mirrors (listFirst_same mirrors list) ?_
  intro first first' at_first
  have empty : first.isNull = first'.isNull := by
    rw [Bool.eq_iff_iff, Addr.isNull_iff, Addr.isNull_iff, at_first.link.null_iff mirrors.sound]
  simp only [empty]
  have last : ∀ {N : Mirror} {a b : Arena}, M.Leads N → N.Mirrors a b →
      Agree arenas N (Arena.writeField l .listLast x) (Arena.writeField m .listLast y)
        (fun _ _ _ => True) a b := fun leads mirrors =>
    agree_listLast mirrors (list.leads leads) (.inr (item.leads leads))
  split
  · exact (agree_listFirst mirrors list (.inr item)).bind
      fun _ _ _ _ _ leads mirrors _ => last leads mirrors
  · refine agree_view_bind mirrors (listLast_same mirrors list) ?_
    intro v w at_last
    exact (agree_itemNext mirrors at_last (.inr item)).bind
      fun _ _ _ _ _ leads mirrors _ => last leads mirrors

/-- A check for room on each side. -/
theorem agree_room (p q : Arena → Prop) [DecidablePred p] [DecidablePred q] (n m : Nat) :
    Agree arenas M
      (.view fun a => if p a then .ok () else .error (.allocationFailed n a.spaceOccupied))
      (.view fun b => if q b then .ok () else .error (.allocationFailed m b.spaceOccupied))
      (fun _ _ _ => True) a b := by
  by_cases left : p a
  · by_cases right : q b
    · exact agree_of_apply (congrArg (·, a) (if_pos left)) (congrArg (·, b) (if_pos right))
        (.refl M) mirrors (.ok trivial)
    · exact agree_lacks_right (congrArg (·, b) (if_neg right)) trivial
  · exact agree_lacks_left (congrArg (·, a) (if_neg left)) trivial

theorem agree_addItem {d e : Descriptor} (list : M.To .list d.addr e.addr) (count : UInt32)
    (content : M.Same g h) :
    Agree arenas M (Arena.addItem d count g) (Arena.addItem e count h)
      (fun N u v => N.Same u.1 v.1 ∧ N.Same u.2 v.2) a b := by
  refine (agree_materialize mirrors content).bind ?_
  rintro N₁ a b ⟨u, kept⟩ ⟨v, kept'⟩ leads₁ (mirrors₁ : N₁.Mirrors a b) ⟨link, same⟩
  have alike := Alike.item link (.inl ⟨rfl, rfl⟩)
  refine (agree_createPair mirrors₁ alike nofun rfl rfl rfl rfl).bind ?_
  rintro N₂ a b item item' leads₂ (mirrors₂ : N₂.Mirrors a b) ⟨same_item, at_item⟩
  have list₂ := (list.leads leads₁).leads leads₂
  refine (agree_linkItem mirrors₂ list₂ at_item).bind ?_
  rintro N₃ a b _ _ leads₃ (mirrors₃ : N₃.Mirrors a b) _
  refine (agree_listCount mirrors₃ (list₂.leads leads₃) (count + 1)).bind ?_
  rintro N₄ a b _ _ leads₄ (mirrors₄ : N₄.Mirrors a b) _
  refine (agree_bumpGeneration mirrors₄).bind ?_
  rintro N₅ a b _ _ leads₅ (mirrors₅ : N₅.Mirrors a b) _
  have later := (leads₃.trans leads₄).trans leads₅
  exact agree_pure mirrors₅
    ⟨same_item.leads later mirrors₂.sound, same.leads (leads₂.trans later) mirrors₁.sound⟩

theorem agree_appendItem {d e : Descriptor} (list : M.To .list d.addr e.addr)
    (content : M.Same g h) :
    Agree arenas M (Arena.appendItem d g) (Arena.appendItem e h)
      (fun N u v => N.Same u.1 v.1 ∧ N.Same u.2 v.2) a b := by
  rw [Arena.appendItem_eq, Arena.appendItem_eq]
  refine agree_view_bind mirrors (outcome_of_eq (listCount_same mirrors list)) ?_
  rintro count _ rfl
  refine (agree_room mirrors _ _ _ _).bind ?_
  rintro N₁ a b _ _ leads₁ (mirrors₁ : N₁.Mirrors a b) _
  refine (agree_room mirrors₁ _ _ _ _).bind ?_
  rintro N₂ a b _ _ leads₂ (mirrors₂ : N₂.Mirrors a b) _
  have leads := leads₁.trans leads₂
  exact agree_addItem mirrors₂ (list.leads leads) count (content.leads leads mirrors.sound)

theorem agree_setItemContent (item : M.Same g h) (content : M.Same g' h') :
    Agree arenas M (Arena.setItemContent g g') (Arena.setItemContent h h') Same a b := by
  refine agree_view_bind mirrors (require_same mirrors item .listItem) ?_
  rintro d e ⟨pair, _⟩
  refine (agree_materialize mirrors content).bind ?_
  rintro N₁ a b ⟨u, kept⟩ ⟨v, kept'⟩ leads₁ (mirrors₁ : N₁.Mirrors a b) ⟨link, same⟩
  refine (agree_itemContent mirrors₁ (pair.leads leads₁) link).bind ?_
  rintro N₂ a b _ _ leads₂ (mirrors₂ : N₂.Mirrors a b) _
  refine (agree_bumpGeneration mirrors₂).bind ?_
  rintro N₃ a b _ _ leads₃ (mirrors₃ : N₃.Mirrors a b) _
  exact agree_pure mirrors₃ (same.leads (leads₂.trans leads₃) mirrors₁.sound)

end

end Mirror
end ValueArena
