import ValueArena.Arena.Arithmetic
import ValueArena.Proofs.Run.Assignment

/-!
Literal sources and stored ones. A source counts by its kind and by what it reads as. A double
therefore does what the literal number with its bits does, and a string what the literal text does,
but for an empty slot, which takes the string itself.
-/
namespace ValueArena

variable {T : Type → Type → Type} [KeyMap T]

namespace Arena

/-- The text is taken, or refused, alike as a literal and as the string `g`. Where it is taken, the
target reads as that text. -/
structure TakesText (a : Arena) (old : Handle) (s : String) (g : Handle) : Prop where
  apply : ∀ op, ∃ e, ∀ source ∈ [Source.text s, .handle g],
    Arena.apply op old source a = (.error e, a)
  refused : old.kind ≠ .none → old.kind ≠ .string → ∃ e, ∀ source ∈ [Source.text s, .handle g],
    assign source (old, a) = (.error e, (old, a))
  taken : old.kind = .none ∨ old.kind = .string → ∀ t,
    a.store.reserveAll [(Cell.plain (.string s)).bytes.length] = .ok t →
      ∀ source ∈ [Source.text s, .handle g], ∃ new b,
        assign source (old, a) = (.ok (), (new, b)) ∧ new.kind = .string ∧ b.readString new = .ok s
  /-- Without memory for a new string, an empty slot still takes the one that is there. -/
  full : ∀ e, a.store.reserveAll [(Cell.plain (.string s)).bytes.length] = .error e →
    (old.kind = .none → (∃ n m, assign (.text s) (old, a) =
        (.error (.allocationFailed n m), (old, a))) ∧
      assign (.handle g) (old, a) = (.ok (), (g, a))) ∧
    (old.kind = .string → ∃ n m, ∀ source ∈ [Source.text s, .handle g],
      assign source (old, a) = (.error (.allocationFailed n m), (old, a)))

/-- Literals do to the target what stored values do that read as they do. -/
structure TakesLiterals (a : Arena) (old : Handle) : Prop where
  number : ∀ v g, g.kind = .double → a.readDouble g = .ok v →
    assign (.number v) (old, a) = assign (.handle g) (old, a) ∧
      ∀ op, Arena.apply op old (.number v) a = Arena.apply op old (.handle g) a
  text : ∀ s g, g.kind = .string → a.readString g = .ok s → a.TakesText old s g

variable {a : Arena} {old g : Handle} {v : Binary64} {s : String}

/-- Every read of a double converts the same number. -/
theorem reads_of_double (kind : g.kind = .double) (read : a.readDouble g = .ok v) :
    a.readInteger g = .ok v.toInt32 ∧ a.readLong g = .ok v.toInt64 ∧
      a.readString g = .ok v.text := by
  cases g with
  | immediate w => cases kind
  | stored d =>
    have double : d.kind = .double := kind
    cases value : storedValue (.stored d) with
    | error e => simp [readDouble, value, bind, Except.bind] at read
    | ok d' =>
      have named : d' = d := by
        unfold storedValue Handle.descriptor? at value
        grind
      subst named
      have loaded : a.load Binary64 d'.payload = .ok v := by
        simpa only [readDouble, value, bind, Except.bind, double] using read
      refine ⟨?_, ?_, ?_⟩
      · simp only [readInteger, kind, read, bind, Except.bind]
        rfl
      · simp only [readLong, value, double, loaded, bind, Except.bind]
        rfl
      · simp only [readString, kind, read, bind, Except.bind]
        rfl

end Arena

namespace Assignment

variable {a : Arena} {old g : Handle} {source : Source} {v : Binary64} {s : String}

/-- A target looks at nothing but the kind of a number and at what it reads as. -/
theorem target_double (kind : g.kind = .double) (read : a.readDouble g = .ok v) :
    target old (.handle g) a = target old (.number v) a := by
  obtain ⟨integer, long, text⟩ := Arena.reads_of_double kind read
  have as_integer : (Source.handle g).readAs Binary64.toInt32 Arena.readInteger a = _ := integer
  have as_double : (Source.handle g).readAs id Arena.readDouble a = _ := read
  have takes : (Source.handle g).kind ∈ Kind.numbers := by
    rw [Source.kind, kind]
    decide
  have literal : (Source.number v).kind ∈ Kind.numbers := show Kind.double ∈ Kind.numbers by decide
  cases slot : old.kind with
  | none =>
    have made : target old (.number v) a = Arena.create (.double v) a :=
      target_none_number slot literal rfl
    rw [made]
    exact target_none_number slot takes read
  | value =>
    have named : target old (.number v) a = (.ok (.immediate v.toInt64), a) :=
      target_value slot literal rfl
    rw [named]
    exact target_value slot takes long
  | string =>
    have made : target old (.number v) a = Arena.create (.string v.text) a :=
      target_string slot (List.mem_append_left _ literal) rfl
    rw [made]
    exact target_string slot (List.mem_append_left _ takes) text
  | integer =>
    simp only [target, slot, Step.view_bind]
    cases old.require .integer with
    | error e => rfl
    | ok d =>
      apply (Step.bind_ok (number_ok takes as_integer)).trans
      rfl
  | double =>
    simp only [target, slot, Step.view_bind]
    cases old.require .double with
    | error e => rfl
    | ok d =>
      apply (Step.bind_ok (number_ok takes as_double)).trans
      rfl
  | _ => simp only [target, slot, Source.kind, kind]

/-- Empty slots and strings take a literal text as a new string. -/
theorem target_literal_text (takes : old.kind = .none ∨ old.kind = .string) :
    target old (.text s) a = Arena.create (.string s) a := by
  rcases takes with kind | kind <;>
  · simp only [target, kind]
    rfl

/-- Nor does it look at anything else of a text, unless it is an empty slot. -/
theorem target_text (text : source.kind = .string) (read : source.readString a = .ok s)
    (slot : old.kind ≠ .none) : target old source a = target old (.text s) a := by
  have literal : (Source.text s).kind = .string := rfl
  have takes : source.kind ∈ Kind.string.takes := by
    rw [text]
    decide
  have refused : source.kind ∉ Kind.numbers := by
    rw [text]
    decide
  cases kind : old.kind with
  | none => exact absurd kind slot
  | string =>
    rw [target_literal_text (.inr kind)]
    exact target_string kind takes read
  | value =>
    simp only [target, kind, text, literal]
    apply (Step.bind_error (number_error refused)).trans
    rfl
  | integer | double =>
    simp only [target, kind, Step.view_bind, text, literal]
    split
    · apply (Step.bind_error (number_error refused)).trans
      rfl
    · rfl
  | _ => simp only [target, kind, text, literal]

/-- Only an empty slot and a string take a text. -/
theorem target_text_error (none : old.kind ≠ .none) (string : old.kind ≠ .string) :
    ∃ e, target old (.text s) a = (.error e, a) := by
  have refused : (Source.text s).kind ∉ Kind.numbers := show Kind.string ∉ Kind.numbers by decide
  cases kind : old.kind with
  | none => exact absurd kind none
  | string => exact absurd kind string
  | value =>
    simp only [target, kind]
    exact ⟨_, Step.bind_error (number_error refused)⟩
  | integer | double =>
    simp only [target, kind, Step.view_bind]
    split
    · exact ⟨_, Step.bind_error (number_error refused)⟩
    · exact ⟨_, rfl⟩
  | _ =>
    simp only [target, kind]
    exact ⟨_, rfl⟩

end Assignment

namespace Arena

variable {a : Arena} {old g : Handle} {v : Binary64} {s : String}

theorem apply_double (op : Operation) (kind : g.kind = .double) (read : a.readDouble g = .ok v) :
    Arena.apply op old (.number v) a = Arena.apply op old (.handle g) a := by
  have same : a.operand old (.handle g) = a.operand old (.number v) := by
    simp only [operand, kind, read]
  simp only [Arena.apply]
  cases old.require .double with
  | error e => rfl
  | ok d => simp only [Step.view_bind, same]

/-- A text is no operand. -/
theorem apply_text (a : Arena) (op : Operation) (old : Handle) :
    ∃ e, ∀ source : Source, source.kind = .string →
      Arena.apply op old source a = (.error e, a) := by
  have refused : ∀ source : Source, source.kind = .string →
      a.operand old source = .error (.unsupportedCoercion old.kind .string) := by
    intro source text
    cases source with
    | number v => cases text
    | text s => rfl
    | handle h =>
      have kind : h.kind = .string := text
      simp only [operand, Source.kind, kind]
  cases required : old.require .double with
  | error e => exact ⟨e, fun source _ => by simp only [Arena.apply, Step.view_bind, required]⟩
  | ok d =>
    refine ⟨.unsupportedCoercion old.kind .string, fun source text => ?_⟩
    simp only [Arena.apply, Step.view_bind, required, refused source text]

/-- Both ways to give a text give it. -/
theorem sources_of_string (kind : g.kind = .string) (read : a.readString g = .ok s) :
    ∀ source ∈ [Source.text s, .handle g], source.kind = .string ∧ source.readString a = .ok s := by
  simp [Source.kind, Source.readString, kind, read]

theorem takesText_of_bounded (bounded : a.store.Bounded) (kind : g.kind = .string)
    (read : a.readString g = .ok s) : a.TakesText old s g := by
  have sources := sources_of_string kind read
  have whole := (creations_of_bounded bounded).content (.string s)
  have shared : g.kind ∈ Kind.shared := by
    rw [kind]
    decide
  constructor
  case apply =>
    intro op
    obtain ⟨e, failed⟩ := apply_text a op old
    exact ⟨e, fun source member => failed source (sources source member).1⟩
  case refused =>
    intro none string
    obtain ⟨e, failed⟩ := Assignment.target_text_error (a := a) (s := s) none string
    refine ⟨e, fun source member => ?_⟩
    obtain ⟨text, reads⟩ := sources source member
    exact assign_error ((Assignment.target_text text reads none).trans failed)
  case taken =>
    intro takes t served source member
    obtain ⟨h, b, made, gains, _⟩ := whole.served t served
    have literal : Assignment.target old (.text s) a = (.ok h, b) :=
      (Assignment.target_literal_text takes).trans made
    have named : h.kind = .string ∧ b.readString h = .ok s := by
      rw [gains.handle]
      exact ⟨rfl, readString_of_lies gains.lies⟩
    rcases List.mem_pair.mp member with rfl | rfl
    · exact ⟨h, b, assign_ok literal, named⟩
    -- An empty slot shares the string and needs no memory; a string is replaced by a copy.
    · rcases takes with none | string
      · exact ⟨g, a, assign_ok (Assignment.target_none_share none shared), kind, read⟩
      · obtain ⟨text, reads⟩ := sources (.handle g) member
        have same := Assignment.target_text text reads (by rw [string]; decide)
        exact ⟨h, b, assign_ok (same.trans literal), named⟩
  case full =>
    intro e refused
    obtain ⟨n, m, failed⟩ := whole.refused e refused
    have literal : ∀ takes,
        Assignment.target old (.text s) a = (.error (.allocationFailed n m), a) :=
      fun takes => (Assignment.target_literal_text takes).trans failed
    constructor
    · intro none
      exact ⟨⟨n, m, assign_error (literal (.inl none))⟩,
        assign_ok (Assignment.target_none_share none shared)⟩
    · intro string
      refine ⟨n, m, fun source member => ?_⟩
      obtain ⟨text, reads⟩ := sources source member
      have same := Assignment.target_text text reads (by rw [string]; decide)
      exact assign_error (same.trans (literal (.inr string)))

theorem takesLiterals_of_bounded (bounded : a.store.Bounded) (old : Handle) :
    a.TakesLiterals old := by
  constructor
  · intro v g kind read
    refine ⟨?_, fun op => apply_double op kind read⟩
    simp only [assign, Assignment.target_double kind read]
  · exact fun s g kind read => takesText_of_bounded bounded kind read

end Arena

namespace Session

/-- In every arena of a session, whatever has been asked of it, and for every target. -/
theorem takesLiterals_after (config : Config) (names : Names) (registry : Registry T)
    (requests : List Request) (i : Nat) (a : Arena)
    (found : (Session.after ⟨#[.empty config], names, registry⟩ requests).arenas[i]? = some a)
    (old : Handle) : a.TakesLiterals old := by
  have bounded := bounded_after config names registry found
  exact Arena.takesLiterals_of_bounded bounded old

/-- A number and a text in an arena of one page, which has no room for another text. -/
def literalSample : Session :=
  after ⟨#[.empty ⟨16, some 16⟩], .empty, .empty⟩
    [⟨0, .statement ⟨some "number", .create (.double ⟨7⟩)⟩⟩,
     ⟨0, .statement ⟨some "text", .create (.string "7")⟩⟩]

/-- The number takes itself as a literal, and an empty slot takes the text that is there. -/
theorem takesLiterals_after_literalSample : ∃ a number text,
    literalSample.arenas[0]? = some a ∧
      literalSample.names.handles.find? "number" = some number ∧
      literalSample.names.handles.find? "text" = some text ∧
      a.readDouble number = .ok ⟨7⟩ ∧ a.readString text = .ok "7" ∧
      assign (.number ⟨7⟩) (number, a) = assign (.handle number) (number, a) ∧
      assign (.handle text) (.none, a) = (.ok (), (text, a)) ∧
      ∃ n m, assign (.text "7") (.none, a) = (.error (.allocationFailed n m), (.none, a)) := by
  have reads : (do
      let a ← literalSample.arenas[0]?
      let number ← literalSample.names.handles.find? "number"
      let text ← literalSample.names.handles.find? "text"
      return ((number.kind, a.readDouble number), (text.kind, a.readString text),
        (a.store.reserveAll [(Cell.plain (.string "7")).bytes.length]).isOk)) =
      some ((.double, .ok ⟨7⟩), (.string, .ok "7"), false) := by decide +kernel
  simp only [Option.bind_eq_bind, Option.bind_eq_some_iff, pure, Option.some.injEq,
    Prod.mk.injEq] at reads
  obtain ⟨a, found, number, at_number, text, at_text, ⟨double, read⟩, ⟨string, read_text⟩,
    refused⟩ := reads
  have takes := takesLiterals_after ⟨16, some 16⟩ .empty .empty _ 0 a found
  obtain ⟨e, full⟩ :
      ∃ e, a.store.reserveAll [(Cell.plain (.string "7")).bytes.length] = .error e := by
    cases reserved : a.store.reserveAll [(Cell.plain (.string "7")).bytes.length] with
    | error e => exact ⟨e, rfl⟩
    | ok t => simp [reserved, Except.isOk, Except.toBool] at refused
  obtain ⟨failed, shared⟩ := (((takes .none).text "7" text string read_text).full e full).1 rfl
  exact ⟨a, number, text, found, at_number, at_text, read, read_text,
    ((takes number).number ⟨7⟩ number double read).1, shared, failed⟩

end Session
end ValueArena
