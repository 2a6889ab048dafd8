import ValueArena.Proofs.Run.Creation
import ValueArena.Proofs.Run.Wholeness

/-!
Assignment by the kinds of target and source. The kinds decide whether a pair is supported, and the
target's kind what a supported source comes to: an immediate, a number written in place, a new value
or the source itself under another name. Nothing but a new value takes memory, so nothing else can
fail.
-/
namespace ValueArena

variable {T : Type → Type → Type} [KeyMap T]

namespace Kind

/-- The kinds whose number is taken. -/
def numbers : List Kind := [.integer, .double, .value]

/-- The kinds of values that an empty slot comes to name as they are. -/
def shared : List Kind := [.none, .string, .list, .object, .nativeObject, .nativeFunction]

/-- The kinds of sources that a target of this kind takes. -/
def takes : Kind → List Kind
  | .none => numbers ++ shared
  | .value | .integer | .double => numbers
  | .string => numbers ++ [.string]
  | _ => []

end Kind

namespace Source

/-- What a source reads as. A literal number is converted, and a literal text is no number. -/
def readAs (ofLiteral : Binary64 → α) (read : Arena → Handle → Except MemoryError α) (a : Arena) :
    Source → Except MemoryError α
  | .number v => .ok (ofLiteral v)
  | .text _ => .error (.unsupportedSourceType .string)
  | .handle h => read a h

def readInteger : Arena → Source → Except MemoryError Int32 :=
  readAs Binary64.toInt32 Arena.readInteger

def readLong : Arena → Source → Except MemoryError Int64 := readAs Binary64.toInt64 Arena.readLong

def readDouble : Arena → Source → Except MemoryError Binary64 := readAs id Arena.readDouble

def readString (a : Arena) : Source → Except MemoryError String
  | .number v => .ok v.text
  | .text v => .ok v
  | .handle h => a.readString h

end Source

/-- What an assignment comes to. -/
inductive Effect where
  | names (h : Handle)
  | creates (content : Content)
  | overwrites (content : Content)

/-- The effect of a source on a target, by the target's kind. -/
inductive Rule (a : Arena) : Kind → Source → Effect → Prop
  | number (source : Source) (v : Binary64) (takes : source.kind ∈ Kind.numbers)
      (read : source.readDouble a = .ok v) : Rule a .none source (.creates (.double v))
  | text (v : String) : Rule a .none (.text v) (.creates (.string v))
  | share (h : Handle) (shared : h.kind ∈ Kind.shared) : Rule a .none (.handle h) (.names h)
  | value (source : Source) (v : Int64) (read : source.readLong a = .ok v) :
      Rule a .value source (.names (.immediate v))
  | integer (source : Source) (v : Int32) (read : source.readInteger a = .ok v) :
      Rule a .integer source (.overwrites (.integer v))
  | double (source : Source) (v : Binary64) (read : source.readDouble a = .ok v) :
      Rule a .double source (.overwrites (.double v))
  | string (source : Source) (v : String) (read : source.readString a = .ok v) :
      Rule a .string source (.creates (.string v))

namespace Arena

/-- `b` is `a` with another content under the handle, which every handle of its kind to its address
reads. -/
structure Overwrites (a : Arena) (h : Handle) (content : Content) (b : Arena) : Prop where
  decoded : b.decode h.addr = .ok h
  read : ∀ size, content.ReadBy b (.stored ⟨h.kind, size, h.addr⟩)
  generation : b.generation = a.generation
  room : b.store.room = a.store.room

end Arena

/-- What becomes of the target and of the arena. Only a new value can fail, and only for want of the
memory for its bytes. -/
def Effect.Leaves (a : Arena) (old : Handle) (left : Except MemoryError Unit × (Handle × Arena)) :
    Effect → Prop
  | .names h => left = (.ok (), (h, a))
  | .overwrites content => ∃ b, left = (.ok (), (old, b)) ∧ a.Overwrites old content b
  | .creates content =>
    (∀ e, a.store.reserveAll [(Cell.plain content).bytes.length] = .error e →
      ∃ n m, left = (.error (.allocationFailed n m), (old, a))) ∧
    ∀ s, a.store.reserveAll [(Cell.plain content).bytes.length] = .ok s →
      ∃ h b, left = (.ok (), (h, b)) ∧ a.Gains (.plain content) h b ∧ content.ReadBy b h

/-- The assignment of the source to the target does what its rule says, or is refused for the kinds
and changes nothing. -/
structure Arena.Assigns (a : Arena) (old : Handle) (source : Source) : Prop where
  ruled : source.kind ∈ old.kind.takes → ∃ effect, Rule a old.kind source effect
  follows : source.kind ∈ old.kind.takes → ∀ effect, Rule a old.kind source effect →
    effect.Leaves a old (assign source (old, a))
  unsupported : source.kind ∉ old.kind.takes →
    assign source (old, a) = (.error (.unsupportedCoercion old.kind source.kind), (old, a))

variable {a : Arena} {heap : Heap} {old : Handle} {source : Source}

theorem assign_ok {new : Handle} {b : Arena} (ran : Assignment.target old source a = (.ok new, b)) :
    assign source (old, a) = (.ok (), (new, b)) := by
  simp only [assign, ran]

theorem assign_error {e : MemoryError} {b : Arena}
    (ran : Assignment.target old source a = (.error e, b)) :
    assign source (old, a) = (.error e, (old, b)) := by
  simp only [assign, ran]

theorem Kind.takesNumber_iff (k : Kind) : Assignment.takesNumber k = true ↔ k ∈ numbers := by
  cases k <;> decide

theorem Kind.shares_iff (k : Kind) : Assignment.shares k = true ↔ k ∈ shared := by
  cases k <;> decide

namespace Assignment

theorem number_ok {unsupported : MemoryError} {ofLiteral : Binary64 → α}
    {read : Arena → Handle → Except MemoryError α} {v : α} (takes : source.kind ∈ Kind.numbers)
    (got : source.readAs ofLiteral read a = .ok v) :
    number unsupported ofLiteral read source a = (.ok v, a) := by
  cases source with
  | number w =>
    cases got
    rfl
  | text w => exact absurd takes (show Kind.string ∉ Kind.numbers by decide)
  | handle h =>
    have given : takesNumber h.kind = true := (Kind.takesNumber_iff _).mpr takes
    have got : read a h = .ok v := got
    simp only [number, given, if_true, Step.view_apply, got]

theorem number_error {unsupported : MemoryError} {ofLiteral : Binary64 → α}
    {read : Arena → Handle → Except MemoryError α} (other : source.kind ∉ Kind.numbers) :
    number unsupported ofLiteral read source a = (.error unsupported, a) := by
  cases source with
  | number v => exact absurd (show Kind.double ∈ Kind.numbers by decide) other
  | text v => rfl
  | handle h =>
    have refused : ¬ takesNumber h.kind = true := mt (Kind.takesNumber_iff _).mp other
    simp only [number, refused]
    rfl

end Assignment

/-- A number can be read in every way. -/
theorem Source.reads (holds : a.store.Holds heap) (issued : source.Issued heap)
    (number : source.kind ∈ Kind.numbers) :
    (∃ v, source.readInteger a = .ok v) ∧ (∃ v, source.readLong a = .ok v) ∧
      (∃ v, source.readDouble a = .ok v) ∧ ∃ v, source.readString a = .ok v := by
  cases source with
  | number v => exact ⟨⟨_, rfl⟩, ⟨_, rfl⟩, ⟨_, rfl⟩, ⟨_, rfl⟩⟩
  | text v => exact absurd number (show Kind.string ∉ Kind.numbers by decide)
  | handle h =>
    cases h with
    | immediate v => exact ⟨⟨_, rfl⟩, ⟨_, rfl⟩, ⟨_, rfl⟩, ⟨_, rfl⟩⟩
    | stored d =>
      obtain ⟨c, found, named⟩ := Heap.Issued.cell_of_kind issued holds.null (by
        intro none
        exact absurd number (by simp [kind, Handle.kind, none, Kind.numbers]))
      have lies := holds.lies found
      rw [named] at number ⊢
      simp only [readInteger, readLong, readDouble, readString, readAs,
        Arena.readInteger_of_lies lies, Arena.readLong_of_lies lies,
        Arena.readDouble_of_lies lies, Arena.readString_of_lies lies]
      cases c with
      | plain content =>
        cases content with
        | integer v | double v => exact ⟨⟨_, rfl⟩, ⟨_, rfl⟩, ⟨_, rfl⟩, ⟨_, rfl⟩⟩
        | _ => simp [kind, Handle.kind, Cell.kind, Content.kind, Kind.numbers] at number
      | list | item | object => simp [kind, Handle.kind, Cell.kind, Kind.numbers] at number

namespace Assignment

theorem leaves_create (holds : a.store.Holds heap) {content : Content}
    (ran : target old source a = Arena.create content a) :
    Effect.Leaves a old (assign source (old, a)) (.creates content) := by
  have whole := (Arena.creations_of_bounded holds.bounded).content content
  constructor
  · intro e refused
    obtain ⟨n, m, failed⟩ := whole.refused e refused
    exact ⟨n, m, assign_error (ran.trans failed)⟩
  · intro s served
    obtain ⟨h, b, made, gains, _⟩ := whole.served s served
    refine ⟨h, b, assign_ok (ran.trans made), gains, ?_⟩
    rw [gains.handle]
    exact Arena.readBy_of_lies gains.lies fun _ => rfl

/-- A number written over one of its kind. -/
theorem leaves_overwrite (holds : a.store.Holds heap) [FixedWidth α] {kind : Kind}
    {content : α → Content} (numbers : Arena.Numbers kind content) (issued : heap.Issued old)
    (same : old.kind = kind) {v : α}
    (ran : ∀ d, old.require kind = .ok d →
      target old source a = (do Arena.write d.payload v; pure old : ArenaStep Handle) a) :
    Effect.Leaves a old (assign source (old, a)) (.overwrites (content v)) := by
  subst same
  obtain ⟨d, c, rfl, found, named, required⟩ := issued.rewritten holds.null numbers.rewritten
  have kind_c : c.kind = (Handle.stored d).kind := by
    rw [named]
    rfl
  obtain ⟨_, b, rfl, becomes, wrote, rewrites⟩ := Arena.write_number holds numbers found kind_c v
  have lies := rewrites.holds.lies (Heap.put_self ..)
  refine ⟨b, assign_ok ((ran d required).trans (Step.bind_ok wrote)), ?_, ?_,
    rewrites.generation, rewrites.room⟩
  · have decoded := Arena.decode_of_lies lies
    rw [becomes.kind, becomes.size, ← named] at decoded
    exact decoded
  · intro size
    rw [← numbers.kind v]
    apply Arena.readBy_of_lies lies
    intro string
    have rewritten := numbers.rewritten
    rw [← numbers.kind v, string] at rewritten
    cases rewritten

theorem target_none_number (kind : old.kind = .none) (number : source.kind ∈ Kind.numbers)
    {v : Binary64} (read : source.readDouble a = .ok v) :
    target old source a = Arena.create (.double v) a := by
  cases source with
  | number w =>
    cases read
    simp only [target, kind]
    rfl
  | text w => exact absurd number (show Kind.string ∉ Kind.numbers by decide)
  | handle h =>
    have given : takesNumber h.kind = true := (Kind.takesNumber_iff _).mpr number
    have read : a.readDouble h = .ok v := read
    simp only [target, kind, given, if_true, Step.view_bind, read]
    rfl

theorem target_none_share (kind : old.kind = .none) {h : Handle} (shared : h.kind ∈ Kind.shared) :
    target old (.handle h) a = (.ok h, a) := by
  have given : shares h.kind = true := (Kind.shares_iff _).mpr shared
  have other : takesNumber h.kind = false := by
    revert shared
    cases h.kind <;> decide
  simp only [target, kind, given, other, if_true]
  rfl

theorem target_value (kind : old.kind = .value) (number : source.kind ∈ Kind.numbers)
    {v : Int64} (read : source.readLong a = .ok v) :
    target old source a = (.ok (.immediate v), a) := by
  simp only [target, kind]
  exact Step.bind_ok (number_ok number read)

theorem target_string (kind : old.kind = .string) (takes : source.kind ∈ Kind.string.takes)
    {v : String} (read : source.readString a = .ok v) :
    target old source a = Arena.create (.string v) a := by
  cases source with
  | number w | text w =>
    cases read
    simp only [target, kind]
    rfl
  | handle h =>
    have given : (takesNumber h.kind || h.kind == .string) = true := by
      revert takes
      simp only [Source.kind]
      cases h.kind <;> decide
    have read : a.readString h = .ok v := read
    simp only [target, kind, given, if_true, Step.view_bind, read]
    rfl

theorem target_none_error (kind : old.kind = .none) (other : source.kind ∉ Kind.none.takes) :
    target old source a = (.error (.unsupportedCoercion old.kind source.kind), a) := by
  cases source with
  | number v => exact absurd (show Kind.double ∈ Kind.none.takes by decide) other
  | text v => exact absurd (show Kind.string ∈ Kind.none.takes by decide) other
  | handle h =>
    have refused : takesNumber h.kind = false ∧ shares h.kind = false := by
      revert other
      simp only [Source.kind]
      cases h.kind <;> decide
    obtain ⟨no_number, not_shared⟩ := refused
    simp only [target, kind, no_number, not_shared]
    rfl

theorem target_string_error (kind : old.kind = .string) (other : source.kind ∉ Kind.string.takes) :
    target old source a = (.error (.unsupportedCoercion old.kind source.kind), a) := by
  cases source with
  | number v => exact absurd (show Kind.double ∈ Kind.string.takes by decide) other
  | text v => exact absurd (show Kind.string ∈ Kind.string.takes by decide) other
  | handle h =>
    have refused : (takesNumber h.kind || h.kind == .string) = false := by
      revert other
      simp only [Source.kind]
      cases h.kind <;> decide
    simp only [target, kind, refused]
    rfl

/-- A pair that is not supported is refused before anything is done. -/
theorem target_error (holds : a.store.Holds heap) (issued : heap.Issued old)
    (other : source.kind ∉ old.kind.takes) :
    target old source a = (.error (.unsupportedCoercion old.kind source.kind), a) := by
  cases kind : old.kind with
  | none =>
    rw [← kind]
    exact target_none_error kind (kind ▸ other)
  | string =>
    rw [← kind]
    exact target_string_error kind (kind ▸ other)
  | value =>
    rw [kind] at other
    simp only [target, kind]
    exact Step.bind_error (number_error other)
  | integer | double =>
    obtain ⟨d, _, _, _, _, required⟩ := issued.rewritten holds.null (by rw [kind]; rfl)
    rw [kind] at other required
    simp only [target, kind, required, Step.view_bind]
    exact Step.bind_error (number_error other)
  | _ =>
    simp only [target, kind]
    rfl

/-- A rule for a supported pair is followed. -/
theorem leaves_of_rule (holds : a.store.Holds heap) (issued : heap.Issued old)
    (takes : source.kind ∈ old.kind.takes) {effect : Effect}
    (rule : Rule a old.kind source effect) : effect.Leaves a old (assign source (old, a)) := by
  -- The constructor of the rule fixes the kind of the target, hence the branch that is taken.
  generalize kind : old.kind = k at rule takes
  cases rule with
  | number _ v number read =>
    exact leaves_create holds (target_none_number kind number read)
  | text v =>
    apply leaves_create holds
    simp only [target, kind]
    rfl
  | share h shared =>
    exact assign_ok (target_none_share kind shared)
  | value _ v read =>
    exact assign_ok (target_value kind takes read)
  | integer _ v read =>
    apply leaves_overwrite holds Arena.integers issued kind
    intro d required
    simp only [target, kind, required, Step.view_bind]
    exact Step.bind_ok (number_ok takes read)
  | double _ v read =>
    apply leaves_overwrite holds Arena.doubles issued kind
    intro d required
    simp only [target, kind, required, Step.view_bind]
    exact Step.bind_ok (number_ok takes read)
  | string _ v read =>
    exact leaves_create holds (target_string kind takes read)

end Assignment

/-- A text can be read. -/
theorem Source.readString_text (holds : a.store.Holds heap) (issued : source.Issued heap)
    (text : source.kind = .string) : ∃ v, source.readString a = .ok v := by
  cases source with
  | number v => exact ⟨_, rfl⟩
  | text v => exact ⟨_, rfl⟩
  | handle h =>
    cases h with
    | immediate v => cases text
    | stored d =>
      have string : d.kind = .string := text
      obtain ⟨c, found, named⟩ := Heap.Issued.cell_of_kind issued holds.null (by simp [string])
      have lies := holds.lies found
      rw [named] at string ⊢
      simp only [readString, Arena.readString_of_lies lies]
      obtain ⟨content, rfl⟩ := Cell.eq_plain_of_kind (.string "") string
      cases content with
      | string v => exact ⟨_, rfl⟩
      | _ => cases string

/-- Every supported pair has its rule. -/
theorem Rule.exists_of_takes (holds : a.store.Holds heap) (issued : source.Issued heap) :
    ∀ {k : Kind}, source.kind ∈ k.takes → ∃ effect, Rule a k source effect := by
  intro k takes
  cases k with
  | none =>
    rcases List.mem_append.mp takes with number | shared
    · obtain ⟨_, _, ⟨v, read⟩, _⟩ := source.reads holds issued number
      exact ⟨_, .number source v number read⟩
    · cases source with
      | number v => exact absurd shared (show Kind.double ∉ Kind.shared by decide)
      | text v => exact ⟨_, .text v⟩
      | handle h => exact ⟨_, .share h shared⟩
  | value =>
    obtain ⟨_, ⟨v, read⟩, _⟩ := source.reads holds issued takes
    exact ⟨_, .value source v read⟩
  | integer =>
    obtain ⟨⟨v, read⟩, _⟩ := source.reads holds issued takes
    exact ⟨_, .integer source v read⟩
  | double =>
    obtain ⟨_, _, ⟨v, read⟩, _⟩ := source.reads holds issued takes
    exact ⟨_, .double source v read⟩
  | string =>
    rcases List.mem_append.mp takes with number | text
    · obtain ⟨_, _, _, v, read⟩ := source.reads holds issued number
      exact ⟨_, .string source v read⟩
    · obtain ⟨v, read⟩ := source.readString_text holds issued (List.mem_singleton.mp text)
      exact ⟨_, .string source v read⟩
  | _ => cases takes

theorem Arena.assigns_of_issued (holds : a.store.Holds heap) (issued : heap.Issued old)
    (issued_source : source.Issued heap) : a.Assigns old source := by
  constructor
  · exact Rule.exists_of_takes holds issued_source
  · intro takes effect rule
    exact Assignment.leaves_of_rule holds issued takes rule
  · intro other
    exact assign_error (Assignment.target_error holds issued other)

/-- What a source argument stands for, if its name is bound. -/
def SourceArg.value? (n : Names) : SourceArg → Option Source
  | .number v => some (.number v)
  | .text v => some (.text v)
  | .handle h => (h.value? n).map .handle

theorem SourceArg.issued {n : Names} {p : Picture} (fits : n.Fits p) (null : p.heap .null = none)
    {arg : SourceArg} (found : arg.value? n = some source) : source.Issued p.heap := by
  cases arg with
  | number v | text v =>
    cases found
    trivial
  | handle h =>
    obtain ⟨g, at_h, rfl⟩ := Option.map_eq_some_iff.mp found
    exact HandleArg.issued fits null at_h

namespace Statement

/-- Whatever program has run, for all that it can name. -/
theorem assigns_after (r : Registry T) (config : Config) (program : List Statement)
    (allowed : ∀ s ∈ program, s.command.isPublic = true) (target : HandleArg) (offer : SourceArg)
    (old : Handle) (source : Source)
    (named : target.value? (after r config program).1 = some old)
    (offered : offer.value? (after r config program).1 = some source) :
    (after r config program).2.Assigns old source := by
  obtain ⟨p, shows, names, _⟩ := after_shows r config allowed
  exact Arena.assigns_of_issued shows.holds (HandleArg.issued names shows.formed.null named)
    (SourceArg.issued names shows.formed.null offered)

/-- A number and a text. -/
def pairSample : List Statement :=
  [⟨some "number", .create (.integer 5)⟩, ⟨some "text", .create (.string "text")⟩]

/-- The number takes itself, and reads as before; it does not take the text. -/
theorem assigns_after_pairSample : ∃ number text,
    (after .empty ⟨64, none⟩ pairSample).1.handles.find? "number" = some number ∧
    (after .empty ⟨64, none⟩ pairSample).1.handles.find? "text" = some text ∧
    (∃ v b, (after .empty ⟨64, none⟩ pairSample).2.readInteger number = .ok v ∧
      assign (.handle number) (number, (after .empty ⟨64, none⟩ pairSample).2) =
        (.ok (), (number, b)) ∧ b.readInteger number = .ok v) ∧
    assign (.handle text) (number, (after .empty ⟨64, none⟩ pairSample).2) =
      (.error (.unsupportedCoercion .integer .string),
        (number, (after .empty ⟨64, none⟩ pairSample).2)) := by
  have kinds : (do
      let number ← (after .empty ⟨64, none⟩ pairSample).1.handles.find? "number"
      let text ← (after .empty ⟨64, none⟩ pairSample).1.handles.find? "text"
      return (number.kind, text.kind)) = some (.integer, .string) := by decide +kernel
  simp only [Option.bind_eq_bind, Option.bind_eq_some_iff, pure, Option.some.injEq,
    Prod.mk.injEq] at kinds
  obtain ⟨number, at_number, text, at_text, integer, string⟩ := kinds
  have own := assigns_after .empty ⟨64, none⟩ pairSample (by decide) (.named "number")
    (.handle (.named "number")) number (.handle number) at_number
    (by simp [SourceArg.value?, HandleArg.value?, at_number])
  have other := assigns_after .empty ⟨64, none⟩ pairSample (by decide) (.named "number")
    (.handle (.named "text")) number (.handle text) at_number
    (by simp [SourceArg.value?, HandleArg.value?, at_text])
  refine ⟨number, text, at_number, at_text, ?_, ?_⟩
  · have takes : (Source.handle number).kind ∈ number.kind.takes := by
      rw [Source.kind, integer]
      decide
    obtain ⟨effect, rule⟩ := own.ruled takes
    have leaves := own.follows takes effect rule
    cases number with
    | immediate w => cases integer
    | stored d =>
      rw [integer] at rule
      cases rule with
      | integer _ v read =>
        obtain ⟨b, ran, overwrites⟩ := leaves
        exact ⟨v, b, read, ran, overwrites.read d.size⟩
  · have refused := other.unsupported (by
      rw [Source.kind, integer, string]
      decide)
    rw [Source.kind, integer, string] at refused
    exact refused

end Statement
end ValueArena
