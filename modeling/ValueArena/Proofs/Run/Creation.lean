import ValueArena.Proofs.Heap.Typed
import ValueArena.Proofs.Run.Program

/-!
What a creating command hands out. Its handle is found again at its address by whatever program
runs later, and where no command overwrites values of its kind it reads back what it was created
with.
-/
namespace ValueArena

variable {T : Type → Type → Type} [KeyMap T]

/-- The typed reads of `h` give back the content, bit for bit. -/
def Content.ReadBy (a : Arena) (h : Handle) : Content → Prop
  | .none => h.kind = .none
  | .byte v => a.readLong h = .ok v.toUInt64.toInt64
  | .integer v => a.readInteger h = .ok v
  | .long v => a.readLong h = .ok v
  | .float v => a.readDouble h = .ok v.widen ∧
      ∃ d, h.descriptor? = some d ∧ a.load Binary32 d.payload = .ok v
  | .double v => a.readDouble h = .ok v
  | .string v => a.readString h = .ok v
  | .function v => a.readFunction h = .ok v
  | .nativeObject index | .nativeFunction index => a.readNativeIndex h = .ok index

namespace Arena

variable {a : Arena} {addr : Addr}

/-- A cell of a content reads as that content. The size in a handle matters for a text alone. -/
theorem readBy_of_lies {content : Content} {size : UInt32}
    (lies : a.store.Lies addr (.plain content))
    (sized : content.kind = .string → size = (Cell.plain content).size) :
    content.ReadBy a (.stored ⟨content.kind, size, addr⟩) := by
  cases content with
  | none => rfl
  | byte v => exact readLong_of_lies lies
  | integer v => exact readInteger_of_lies lies
  | long v => exact readLong_of_lies lies
  | float v =>
    exact ⟨readDouble_of_lies lies, _, descriptor?_of_lies lies,
      load_plain lies rfl (by decide)⟩
  | double v => exact readDouble_of_lies lies
  | string v =>
    rw [sized rfl]
    exact readString_of_lies lies
  | function v => exact readFunction_of_lies lies
  | nativeObject index | nativeFunction index => exact readNativeIndex_of_lies lies

theorem quietly_create_cell {p : Picture} (shows : a.Shows p) (content : Content) :
    a.Quietly p (create content) fun heap h =>
      heap.Issued h ∧ heap h.addr = some (.plain content) := by
  rcases create_cases shows.holds.bounded content with ⟨n, m, failed, _⟩ | ⟨h, b, made, adds⟩
  · exact quietly_of_error failed shows (.refl p)
  · have creates := adds.creates shows.holds
    obtain ⟨shows_b, evolves⟩ := shows.create creates
    exact quietly_of_ok made shows_b evolves ⟨creates.issued, Heap.put_self ..⟩

end Arena

namespace Command

/-- The kind of the value that a command creates to hand out its handle. -/
def createdKind? : Command → Option Kind
  | .create content => some content.kind
  | .createList => some .list
  | .createObject => some .object
  | _ => none

/-- The handle names a cell of the kind that the command creates, and of its content. -/
def Hands (c : Command) (heap : Heap) (kind : Kind) (h : Handle) : Prop :=
  h = heap.handleAt h.addr ∧ ∃ cell, heap h.addr = some cell ∧ cell.kind = kind ∧
    ∀ content, c = .create content → cell = .plain content

variable {n : Names} {a : Arena} {p : Picture}

theorem quietly_run_creates (r : Registry T) (shows : a.Shows p) (names : n.Fits p) {c : Command}
    {kind : Kind} (creates : c.createdKind? = some kind) :
    Quietly n a p (c.run r) fun q answer =>
      answer.Fits q ∧ ∀ h, answer = .handle h → q.heap .null = none → c.Hands q.heap kind h := by
  cases c with
  | create content =>
    cases creates
    refine quietly_map (quietly_onArena shows names (Arena.quietly_create_cell shows content)) ?_
    rintro q h ⟨issued, found⟩
    refine ⟨issued, ?_⟩
    rintro _ ⟨⟩ null
    exact ⟨issued.eq_handleAt null found, _, found, rfl, fun _ eq => by cases eq; rfl⟩
  | createList =>
    cases creates
    refine quietly_map (quietly_onArena shows names (Arena.quietly_createList shows)) ?_
    rintro q h ⟨issued, ⟨first, last, count, found⟩, _⟩
    refine ⟨issued, ?_⟩
    rintro _ ⟨⟩ null
    exact ⟨issued.eq_handleAt null found, _, found, rfl, nofun⟩
  | createObject =>
    cases creates
    refine quietly_map (quietly_onArena shows names (Arena.quietly_createObject shows)) ?_
    rintro q h ⟨issued, ⟨keys, values, found, _⟩, _⟩
    refine ⟨issued, ?_⟩
    rintro _ ⟨⟩ null
    exact ⟨issued.eq_handleAt null found, _, found, rfl, nofun⟩
  | _ => cases creates

end Command

namespace Statement

variable {n : Names} {a : Arena} {p : Picture}

/-- A statement that creates a value hands out the handle of its cell. -/
theorem hands_run (r : Registry T) (shows : a.Shows p) (names : n.Fits p) {s : Statement}
    {kind : Kind} (creates : s.command.createdKind? = some kind) {h : Handle}
    (made : (s.run r (n, a)).1 = .ok (.handle h)) :
    ∃ q, (s.run r (n, a)).2.2.Shows q ∧ (s.run r (n, a)).2.1.Fits q ∧
      s.command.Hands q.heap kind h := by
  obtain ⟨q, shows_b, _, names_b, fit⟩ := Command.quietly_run_creates r shows names creates
  obtain ⟨result, ⟨m, b⟩, ran⟩ : ∃ result t, s.command.run r (n, a) = (result, t) := ⟨_, _, rfl⟩
  rw [ran] at shows_b names_b fit
  cases result with
  | error e =>
    have failed : s.run r (n, a) = _ := Step.bind_error ran
    rw [failed] at made
    cases made
  | ok answer =>
    obtain ⟨fits, hands⟩ := fit answer rfl
    have next : s.run r (n, a) = _ := Step.bind_ok ran
    revert made
    rw [next]
    cases s.keepAs with
    | none =>
      rintro ⟨⟩
      exact ⟨q, shows_b, names_b, hands h rfl shows_b.formed.null⟩
    | some name =>
      rintro ⟨⟩
      exact ⟨q, shows_b, names_b.keep name fits, hands h rfl shows_b.formed.null⟩

/-- The handle that a statement answered with. -/
def handle? : Except Fault Answer → Option Handle
  | .ok (.handle h) => some h
  | _ => none

theorem eq_of_handle? {result : Except Fault Answer} {h : Handle}
    (found : handle? result = some h) : result = .ok (.handle h) := by
  unfold handle? at found
  split at found
  · rw [Option.some.inj found]
  · cases found

/-- Whatever runs later, what was created is found again at its address; values that no command
overwrites read as they were created. -/
theorem decodes_after (r : Registry T) (config : Config) (before later : List Statement)
    (s : Statement) (kind : Kind) (h : Handle)
    (allowed : ∀ t ∈ before ++ later, t.command.isPublic = true)
    (creates : s.command.createdKind? = some kind)
    (made : (s.run r (after r config before)).1 = .ok (.handle h)) :
    let now := (s.run r (after r config before)).2
    let last := (runAll r later now).2
    h.kind = kind ∧ now.2.decode h.addr = .ok h ∧ last.2.decode h.addr = .ok h ∧
      ∀ content, s.command = .create content → content.ReadBy now.2 h ∧
        (kind.isRewritten = false → content.ReadBy last.2 h) := by
  obtain ⟨p, shows, names, _⟩ :=
    after_shows r config fun t member => allowed t (List.mem_append_left _ member)
  obtain ⟨q, shows_q, names_q, named, c, found, rfl, content_eq⟩ :=
    hands_run r shows names creates made
  obtain ⟨t, shows_t, _, _, grows⟩ := runAll_keeps r _ (fun t => q.heap.Grows t.heap)
    (fun _ _ _ _ _ _ _ _ _ _ _ _ _ advances grows => grows.trans advances.evolves.grows) later
    (fun t member => allowed t (List.mem_append_right _ member)) shows_q names_q
    (Nat.lt_succ_self _) (throughout_of_forall r (fun _ _ _ => trivial) _) (.refl _)
  obtain ⟨d, found_t, becomes⟩ := grows h.addr c found
  have named_t : h = t.heap.handleAt h.addr := named.trans (grows.handleAt found).symm
  have decoded := Arena.decode_of_holds shows_q.holds found
  have decoded_t := Arena.decode_of_holds shows_t.holds found_t
  rw [← named] at decoded
  rw [← named_t] at decoded_t
  refine ⟨?_, decoded, decoded_t, ?_⟩
  · rw [named, Heap.handleAt_of_some found]
    rfl
  intro content eq
  obtain rfl := content_eq content eq
  rw [named, Heap.handleAt_of_some found]
  constructor
  · exact Arena.readBy_of_lies (shows_q.holds.lies found) fun _ => rfl
  · intro fixed
    exact Arena.readBy_of_lies (shows_t.holds.lies (grows.kept found fixed)) fun _ => rfl

def textStatement : Statement := ⟨some "text", .create (.string "text")⟩

/-- An object takes up the text, which then gives way to another under its name. -/
def textSample : List Statement :=
  [⟨some "object", .objectCreate⟩,
   ⟨some "slot", .onObject "object" (.addKey "key")⟩,
   ⟨none, .onObject "object" (.set "key" (.named "text"))⟩,
   ⟨none, .assign (.named "text") (.number ⟨0⟩)⟩]

theorem decodes_after_textSample : ∃ h,
    (textStatement.run .empty (after .empty ⟨64, none⟩ sample)).1 = .ok (.handle h) ∧
      ∃ names a, (runAll .empty textSample
          (textStatement.run .empty (after .empty ⟨64, none⟩ sample)).2).2 = (names, a) ∧
        names.handles.find? "text" ≠ some h ∧ a.decode h.addr = .ok h ∧
        a.readString h = .ok "text" := by
  have some_handle : (handle? (textStatement.run .empty
      (after .empty ⟨64, none⟩ sample)).1).isSome = true := by decide +kernel
  have replaced : (runAll .empty textSample
      (textStatement.run .empty (after .empty ⟨64, none⟩ sample)).2).2.1.handles.find? "text" ≠
        handle? (textStatement.run .empty (after .empty ⟨64, none⟩ sample)).1 := by decide +kernel
  obtain ⟨h, found⟩ := Option.isSome_iff_exists.mp some_handle
  rw [found] at replaced
  have made := eq_of_handle? found
  obtain ⟨_, _, decoded, reads⟩ := decodes_after .empty ⟨64, none⟩ sample textSample textStatement
    .string h (by decide) rfl made
  exact ⟨h, made, _, _, (Prod.eta _).symm, replaced, decoded, (reads _ rfl).2 rfl⟩

end Statement
end ValueArena
