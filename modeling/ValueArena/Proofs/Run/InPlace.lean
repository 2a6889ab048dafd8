import ValueArena.Proofs.Run.Assignment
import ValueArena.Proofs.Run.Sequences
import ValueArena.Proofs.View.Unmoved

/-!
Numbers overwritten in place. However a handle was come by, it reads the number as soon as it is
written, if it names it; and nothing else that a program can get hold of is any different.
-/
namespace ValueArena

variable {T : Type → Type → Type} [KeyMap T]

/-- A handle that is kept under a name, that names a value of the arena, or that a view gives: what
the view remembers as well as what it answers with. -/
inductive Names.Gives (n : Names) (a : Arena) : Handle → Prop where
  | named {name : String} {h : Handle} (found : n.handles.find? name = some h) : Gives n a h
  | value {d : Descriptor} (tile : a.Tile d) : Gives n a (.stored d)
  | item {v : ListView} {h : Handle} (view : n.HasView v) (member : h ∈ v.items) : Gives n a h
  | content {v : ListView} {h : Handle} (view : n.HasView v) (member : h ∈ v.values) : Gives n a h
  | itemAt {v : ListView} {i : Nat} {h : Handle} (view : n.HasView v)
      (served : (ListView.item a i v).1 = .ok h) : Gives n a h
  | contentAt {v : ListView} {i : Nat} {h : Handle} (view : n.HasView v)
      (served : (ListView.get a i v).1 = .ok h) : Gives n a h
  | slot {name key : String} {o : ObjectView} {h : Handle} (found : n.objects.find? name = some o)
      (served : (ObjectView.slot a key o).1 = .ok h) : Gives n a h
  | property {name key : String} {o : ObjectView} {h : Handle}
      (found : n.objects.find? name = some o) (served : (ObjectView.get a key o).1 = .ok h) :
      Gives n a h

/-- `b` is `a` with the content written in place under `h`: all handles of that address read it, and
no other value, list or object has changed, nor has anything been given out or counted. -/
structure Names.InPlace (n : Names) (a : Arena) (h : Handle) (content : Content) (b : Arena) :
    Prop where
  aliases : ∀ g, n.Gives b g → g.addr = h.addr → g = h ∧ b.AnswersAs g (.plain content)
  others : ∀ g, n.Gives a g → g.addr ≠ h.addr → a.AnswersAlike b g
  lists : ∀ l es, b.Represents l es ↔ a.Represents l es
  opened : ∀ g, n.Gives a g → ListView.ofHandle b g = ListView.ofHandle a g ∧
    ObjectView.ofHandle b g = ObjectView.ofHandle a g
  views : ∀ v, n.HasView v → v.Unmoved a b
  /-- Keys that are not that number find what they found. -/
  properties : ∀ name o keys, n.objects.find? name = some o →
    (ListView.allValues a o.keys).1 = .ok keys → (∀ g ∈ keys, g.addr ≠ h.addr) → ∀ key,
      (ObjectView.get b key o).1 = (ObjectView.get a key o).1 ∧
      (ObjectView.slot b key o).1 = (ObjectView.slot a key o).1
  measures : a.SameMeasures b
  bytes : ∀ i k, b.store.byte? i k ≠ a.store.byte? i k →
    ∃ d, h = .stored d ∧ d.payload.Spans d.size.toNat i k

/-- What in-place writes through the handle do when they succeed, and that they do succeed where the
kinds are right. -/
structure Names.WritesInPlace (n : Names) (a : Arena) (h : Handle) : Prop where
  setInteger : ∀ v b, Arena.setInteger h v a = (.ok (), b) → n.InPlace a h (.integer v) b
  setLong : ∀ v b, Arena.setLong h v a = (.ok (), b) → n.InPlace a h (.long v) b
  setDouble : ∀ v b, Arena.setDouble h v a = (.ok (), b) → n.InPlace a h (.double v) b
  assign : ∀ source new b, assign source (h, a) = (.ok (), (new, b)) →
    new = h ∧ ∃ content, Rule a h.kind source (.overwrites content) ∧ n.InPlace a h content b
  /-- Both operands are read before the result is written, even if they are one. -/
  apply : ∀ op source result b, Arena.apply op h source a = (.ok result, b) →
    ∃ left right, a.readDouble h = .ok left ∧ source.readDouble a = .ok right ∧
      result = op.eval left right ∧ n.InPlace a h (.double result) b
  sets : (h.kind = .integer → ∀ v, (Arena.setInteger h v a).1 = .ok ()) ∧
    (h.kind = .long → ∀ v, (Arena.setLong h v a).1 = .ok ()) ∧
    (h.kind = .double → ∀ v, (Arena.setDouble h v a).1 = .ok ())
  applies : h.kind = .double → ∀ op source, source.kind ∈ [.integer, .long, .double] →
    (∀ g, source = .handle g → n.Gives a g) → ∃ result, (Arena.apply op h source a).1 = .ok result

variable {n : Names} {a b : Arena} {p q : Picture} {h g : Handle}

theorem Names.Gives.issued (shows : a.Shows p) (names : n.Fits p) (gives : n.Gives a g) :
    p.heap.Issued g := by
  cases gives with
  | named found => exact names.handles _ _ found
  | value tile =>
    obtain ⟨c, found, named⟩ := tile.cell shows.holds
    have at_d := Heap.handleAt_of_some found
    rw [← named] at at_d
    exact at_d
  | item view member => exact (names.sees view).items _ member
  | content view member => exact (names.sees view).values _ member
  | itemAt view served => exact (ListView.item_endsWith shows (names.sees view) _).2 _ served
  | contentAt view served => exact (ListView.get_endsWith shows (names.sees view) _).2 _ served
  | slot found served =>
    exact (ObjectView.slot_endsWith shows (names.objects _ _ found) _).2 _ served
  | property found served =>
    exact (ObjectView.get_endsWith shows (names.objects _ _ found) _).2 _ served

/-- The contents that a view answers with are handles of the arena. -/
theorem ListView.issued_of_allValues {v : ListView} {values : Array Handle} (shows : a.Shows p)
    (sees : p.Sees v) (served : (ListView.allValues a v).1 = .ok values) :
    ∀ g ∈ values, p.heap.Issued g := by
  obtain ⟨u, fresh, sees_u, _⟩ := ListView.ensureFresh_sees shows sees
  have answer : ListView.allValues a v = _ := ListView.read_apply fresh _
  rw [answer] at served
  obtain rfl := Except.ok.inj served
  exact sees_u.values

namespace Arena

/-- Without a write to a list the sequences are the same, both ways. -/
theorem represents_quiet (shows : a.Shows p) (shows_b : b.Shows q) (evolves : p.Evolves [] q)
    (lists : ∀ l, q.heap.IsList l → p.heap.IsList l) (l : Addr) (es : List Entry) :
    b.Represents l es ↔ a.Represents l es := by
  constructor
  · intro represents
    rw [represents.eq_lists shows_b, evolves.lists_eq]
    exact shows.represents (lists l ((isList_iff shows_b).mp represents.list))
  · intro represents
    rw [represents.eq_lists shows, ← evolves.lists_eq]
    exact shows_b.represents (evolves.grows.isList ((isList_iff shows).mp represents.list))

/-- A number that is written over one of its kind. -/
theorem inPlace_of_write (shows : a.Shows p) (names : n.Fits p) (issued : p.heap.Issued h)
    [FixedWidth α] {kind : Kind} {content : α → Content} (numbers : Numbers kind content)
    {d : Descriptor} (required : h.require kind = .ok d) {v : α}
    (wrote : write d.payload v a = (.ok (), b)) : n.InPlace a h (content v) b := by
  obtain ⟨c, found, kind_c, rfl, named⟩ := issued.require required
  obtain ⟨old, b', rfl, becomes, wrote', rewrites⟩ :=
    write_number shows.holds numbers found kind_c v
  obtain rfl : b = b' := congrArg Prod.snd (wrote.symm.trans wrote')
  obtain ⟨shows_b, evolves⟩ := shows.rewrite_plain found becomes rewrites
  have null := shows_b.formed.null
  -- The picture evolves without a write to a list, which is all that views depend on.
  have names_b := names.evolves evolves shows.formed null
  have lies := shows_b.holds.lies (Heap.put_self ..)
  have issued_b := issued.grows evolves.grows null
  have other : ∀ g, p.heap.Issued g → g.addr ≠ d.addr → a.AnswersAlike b g := by
    intro g issued_g apart
    exact answersAlike_of_holds shows.holds shows_b.holds issued_g (Heap.put_other apart)
  constructor
  case aliases =>
    intro g gives same
    -- Only one handle has the address: it is put together from the cell that lies there.
    obtain rfl : g = .stored d := by
      have at_g := (congrArg _ same).trans (Heap.put_self p.heap d.addr (.plain (content v)))
      rw [(gives.issued shows_b names_b).eq_handleAt null at_g, same]
      exact issued_b
    have reads := answersAs_of_lies lies
    rw [becomes.kind, becomes.size, ← named] at reads
    exact ⟨rfl, reads⟩
  case others => exact fun g gives => other g (gives.issued shows names)
  case lists =>
    apply represents_quiet shows shows_b evolves
    intro l list
    obtain ⟨first, last, count, at_l⟩ := list
    rcases Heap.put_eq_some at_l with ⟨_, eq⟩ | ⟨_, before⟩
    · cases eq
    · exact ⟨first, last, count, before⟩
  case opened =>
    intro g gives
    have issued_g := gives.issued shows names
    exact ⟨ListView.ofHandle_quiet shows shows_b evolves issued_g,
      ObjectView.ofHandle_quiet shows shows_b evolves issued_g⟩
  case views => exact fun v view => ListView.unmoved_quiet shows shows_b evolves (names.sees view)
  case properties =>
    intro name o keys at_name served apart key
    have sees := names.objects name o at_name
    refine ObjectView.get_quiet shows shows_b evolves sees served (fun g member => ?_) key
    exact other g (ListView.issued_of_allValues shows sees.keys served g member) (apart g member)
  case measures => exact sameMeasures_of_write wrote
  case bytes =>
    intro i k changed
    have spans := spans_of_byte?_ne shows.holds.bounded wrote changed
    have width : d.size.toNat = FixedWidth.width α := by
      rw [named, ← becomes.size, lies.toNat_size, ← FixedWidth.length_encode v]
      exact congrArg List.length (numbers.payload v)
    exact ⟨d, rfl, width ▸ spans⟩

/-- A write to the payload is all that a number set through a handle comes to. -/
theorem setPayload_eq_ok [FixedWidth α] {kind : Kind} {v : α}
    (ran : setPayload kind h v a = (.ok (), b)) :
    ∃ d, h.require kind = .ok d ∧ write d.payload v a = (.ok (), b) := by
  exact Step.view_bind_eq_ok_iff.mp ran

theorem setPayload_ok (shows : a.Shows p) (issued : p.heap.Issued h) [FixedWidth α] {kind : Kind}
    {content : α → Content} (numbers : Numbers kind content) (same : h.kind = kind) (v : α) :
    (setPayload kind h v a).1 = .ok () := by
  subst same
  obtain ⟨d, c, rfl, found, named, required⟩ := issued.rewritten shows.formed.null numbers.rewritten
  have kind : c.kind = (Handle.stored d).kind := by
    rw [named]
    rfl
  obtain ⟨_, b, _, _, wrote, _⟩ := write_number shows.holds numbers found kind v
  simp only [setPayload, Step.view_bind, required, wrote]

end Arena

namespace Assignment

variable {source : Source} {old new : Handle}

theorem number_eq_ok {unsupported : MemoryError} {ofLiteral : Binary64 → α}
    {read : Arena → Handle → Except MemoryError α} {v : α}
    (ran : number unsupported ofLiteral read source a = (.ok v, b)) :
    b = a ∧ source.readAs ofLiteral read a = .ok v := by
  cases source with
  | number w =>
    cases ran
    exact ⟨rfl, rfl⟩
  | text w => cases ran
  | handle g =>
    unfold number at ran
    dsimp only at ran
    split at ran
    · obtain ⟨got, rfl⟩ := Prod.mk.inj ran
      exact ⟨rfl, got⟩
    · cases ran

/-- A number taken by a target that is overwritten is the one that was read. -/
theorem overwrite_eq_ok [FixedWidth α] {d : Descriptor} {unsupported : MemoryError}
    {ofLiteral : Binary64 → α} {read : Arena → Handle → Except MemoryError α}
    (ran : (do Arena.write d.payload (← number unsupported ofLiteral read source); pure old :
      ArenaStep Handle) a = (.ok new, b)) :
    new = old ∧ ∃ v, source.readAs ofLiteral read a = .ok v ∧
      Arena.write d.payload v a = (.ok (), b) := by
  obtain ⟨v, a', taken, rest⟩ := Step.bind_eq_ok_iff.mp ran
  obtain ⟨rfl, got⟩ := number_eq_ok taken
  obtain ⟨_, b', wrote, last⟩ := Step.bind_eq_ok_iff.mp rest
  cases last
  exact ⟨rfl, v, got, wrote⟩

end Assignment

theorem assign_eq_ok {source : Source} {old new : Handle}
    (ran : assign source (old, a) = (.ok (), (new, b))) :
    Assignment.target old source a = (.ok new, b) := by
  obtain ⟨result, t, went⟩ : ∃ result t, Assignment.target old source a = (result, t) := ⟨_, _, rfl⟩
  simp only [assign, went] at ran
  cases result with
  | ok made =>
    cases ran
    exact went
  | error e => cases ran

namespace Arena

theorem operand_eq_ok {source : Source} {v : Binary64} (read : a.operand h source = .ok v) :
    source.readDouble a = .ok v := by
  cases source with
  | number w => exact read
  | text w => cases read
  | handle g =>
    unfold operand at read
    dsimp only at read
    split at read
    all_goals first | exact read | cases read

/-- A double is read from its payload. -/
theorem readDouble_of_require {d : Descriptor} (required : h.require .double = .ok d) :
    a.readDouble h = a.load Binary64 d.payload := by
  obtain ⟨rfl, kind, stored⟩ := Handle.require_ok required
  have value : storedValue (.stored d) = .ok d := by
    simp [storedValue, Handle.descriptor?, Addr.isNull_eq_false stored]
  simp only [readDouble, value, bind, Except.bind, kind]

variable (shows : a.Shows p) (names : n.Fits p) (issued : p.heap.Issued h)
include shows names issued

theorem inPlace_of_assign (kind : h.kind ∈ [.integer, .long, .double]) {source : Source}
    {new : Handle} (ran : assign source (h, a) = (.ok (), (new, b))) :
    new = h ∧ ∃ content, Rule a h.kind source (.overwrites content) ∧ n.InPlace a h content b := by
  have ran := assign_eq_ok ran
  cases same : h.kind with
  | integer =>
    simp only [Assignment.target, same] at ran
    obtain ⟨d, required, ran⟩ := Step.view_bind_eq_ok_iff.mp ran
    obtain ⟨rfl, v, read, wrote⟩ := Assignment.overwrite_eq_ok ran
    exact ⟨rfl, _, .integer source v read,
      inPlace_of_write shows names issued integers required wrote⟩
  | double =>
    simp only [Assignment.target, same] at ran
    obtain ⟨d, required, ran⟩ := Step.view_bind_eq_ok_iff.mp ran
    obtain ⟨rfl, v, read, wrote⟩ := Assignment.overwrite_eq_ok ran
    exact ⟨rfl, _, .double source v read,
      inPlace_of_write shows names issued doubles required wrote⟩
  | long =>
    simp only [Assignment.target, same] at ran
    cases ran
  | _ => simp [same] at kind

theorem inPlace_of_apply {op : Operation} {source : Source} {result : Binary64}
    (ran : Arena.apply op h source a = (.ok result, b)) :
    ∃ left right, a.readDouble h = .ok left ∧ source.readDouble a = .ok right ∧
      result = op.eval left right ∧ n.InPlace a h (.double result) b := by
  obtain ⟨d, required, ran⟩ := Step.view_bind_eq_ok_iff.mp ran
  obtain ⟨right, operand, ran⟩ := Step.view_bind_eq_ok_iff.mp ran
  obtain ⟨left, loaded, ran⟩ := Step.view_bind_eq_ok_iff.mp ran
  obtain ⟨_, b', wrote, last⟩ := Step.bind_eq_ok_iff.mp ran
  cases last
  exact ⟨left, right, (readDouble_of_require required).trans loaded, operand_eq_ok operand, rfl,
    inPlace_of_write shows names issued doubles required wrote⟩

omit names issued in
theorem operand_ok {source : Source} (kind : source.kind ∈ [.integer, .long, .double])
    (given : source.Issued p.heap) : ∃ right, a.operand h source = .ok right := by
  cases source with
  | number v => exact ⟨v, rfl⟩
  | text v => simp [Source.kind] at kind
  | handle g =>
    have kind : g.kind ∈ [.integer, .long, .double] := kind
    have numeric : g.kind.isNumeric = true := by
      revert kind
      cases g.kind <;> decide
    obtain ⟨_, right, read⟩ := reads_of_numeric shows.holds given numeric
    refine ⟨right, ?_⟩
    simp only [Arena.operand]
    revert kind
    cases g.kind <;> simp [read]

omit names in
theorem apply_ok (double : h.kind = .double) (op : Operation) {source : Source}
    (kind : source.kind ∈ [.integer, .long, .double]) (given : source.Issued p.heap) :
    ∃ result, (Arena.apply op h source a).1 = .ok result := by
  have rewritten : h.kind.isRewritten = true := by
    rw [double]
    rfl
  obtain ⟨d, c, rfl, found, named, required⟩ := issued.rewritten shows.formed.null rewritten
  rw [double] at required
  obtain ⟨right, operand⟩ := operand_ok (h := .stored d) shows kind given
  obtain ⟨_, left, loaded⟩ := reads_of_numeric shows.holds issued (by rw [double]; rfl)
  rw [readDouble_of_require required] at loaded
  have kind_c : c.kind = .double := by
    rw [← double, named]
    rfl
  obtain ⟨_, b, _, _, wrote, _⟩ :=
    write_number shows.holds doubles found kind_c (op.eval left right)
  refine ⟨op.eval left right, ?_⟩
  simp only [Arena.apply, Step.view_bind, required, operand, loaded, Step.bind_ok wrote]
  rfl

theorem writesInPlace_of_issued (kind : h.kind ∈ [.integer, .long, .double]) :
    n.WritesInPlace a h where
  setInteger := by
    intro v b ran
    obtain ⟨d, required, wrote⟩ := setPayload_eq_ok ran
    exact inPlace_of_write shows names issued integers required wrote
  setLong := by
    intro v b ran
    obtain ⟨d, required, wrote⟩ := setPayload_eq_ok ran
    exact inPlace_of_write shows names issued longs required wrote
  setDouble := by
    intro v b ran
    obtain ⟨d, required, wrote⟩ := setPayload_eq_ok ran
    exact inPlace_of_write shows names issued doubles required wrote
  assign := fun source new b ran => inPlace_of_assign shows names issued kind ran
  apply := fun op source result b ran => inPlace_of_apply shows names issued ran
  sets := ⟨fun same v => setPayload_ok shows issued integers same v,
    fun same v => setPayload_ok shows issued longs same v,
    fun same v => setPayload_ok shows issued doubles same v⟩
  applies := by
    intro double op source numeric gives
    refine apply_ok shows issued double op numeric ?_
    cases source with
    | handle g => exact (gives g rfl).issued shows names
    | number v | text v => trivial

end Arena

namespace Statement

/-- Whatever program has run, for every number that it can get hold of. -/
theorem writesInPlace_after (r : Registry T) (config : Config) (program : List Statement)
    (allowed : ∀ s ∈ program, s.command.isPublic = true) (h : Handle)
    (given : (after r config program).1.Gives (after r config program).2 h)
    (kind : h.kind ∈ [.integer, .long, .double]) :
    (after r config program).1.WritesInPlace (after r config program).2 h := by
  obtain ⟨p, shows, names, _⟩ := after_shows r config allowed
  exact Arena.writesInPlace_of_issued shows names (given.issued shows names) kind

/-- A number that is the content of a list. -/
def aliasSample : List Statement :=
  [⟨some "number", .create (.double (.ofInt 2))⟩, ⟨some "list", .listCreate⟩,
   ⟨none, .onList "list" (.append (.named "number"))⟩]

/-- The number is added to itself, and the list gives the sum without having been read again. -/
theorem writesInPlace_after_aliasSample : ∃ number v old sum b,
    (after .empty ⟨64, none⟩ aliasSample).1.handles.find? "number" = some number ∧
      (after .empty ⟨64, none⟩ aliasSample).1.lists.find? "list" = some v ∧
      (after .empty ⟨64, none⟩ aliasSample).2.readDouble number = .ok old ∧ sum = old.add old ∧
      Arena.apply .add number (.handle number) (after .empty ⟨64, none⟩ aliasSample).2 =
        (.ok sum, b) ∧
      ListView.get b 0 v = (.ok number, v) ∧ b.readDouble number = .ok sum := by
  have kept : (do
      let number ← (after .empty ⟨64, none⟩ aliasSample).1.handles.find? "number"
      let v ← (after .empty ⟨64, none⟩ aliasSample).1.lists.find? "list"
      return (number.kind, decide (ListView.get (after .empty ⟨64, none⟩ aliasSample).2 0 v =
        (.ok number, v)))) = some (.double, true) := by decide +kernel
  simp only [Option.bind_eq_bind, Option.bind_eq_some_iff, pure, Option.some.injEq,
    Prod.mk.injEq, decide_eq_true_eq] at kept
  obtain ⟨number, at_number, v, at_list, double, served⟩ := kept
  have kind : number.kind ∈ [.integer, .long, .double] := by
    rw [double]
    decide
  have writes := writesInPlace_after .empty ⟨64, none⟩ aliasSample (by decide) number
    (.named at_number) kind
  obtain ⟨sum, added⟩ := writes.applies double .add (.handle number) kind fun g same =>
    Source.handle.inj same ▸ .named at_number
  obtain ⟨old, right, read, read_right, result, inPlace⟩ :=
    writes.apply .add (.handle number) sum _ (Prod.ext added rfl)
  obtain rfl : old = right := Except.ok.inj (read.symm.trans read_right)
  obtain ⟨_, reads⟩ := inPlace.aliases number (.named at_number) rfl
  exact ⟨number, v, old, sum, _, at_number, at_list, read, result, Prod.ext added rfl,
    ((inPlace.views v (.list at_list)).get 0).trans served, reads.double⟩

end Statement
end ValueArena
