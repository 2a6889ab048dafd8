import ValueArena.Arena.Creation

/-!
Cells: what one stored value holds. A cell's bytes are its tag and its fields in order, and a row of
cells has the bytes of the first, of the second and so on. A position is the start of at most one
cell of a row.
-/
namespace ValueArena

inductive Cell where
  | plain (content : Content)
  | list (first last : Addr) (count : UInt32)
  | item (content next : Addr)
  | object (keys values : Addr)
  deriving DecidableEq, Repr

def Content.kind : Content → Kind
  | .none => .none
  | .byte _ => .byte
  | .integer _ => .integer
  | .long _ => .long
  | .float _ => .float
  | .double _ => .double
  | .string _ => .string
  | .function _ => .function
  | .nativeObject _ => .nativeObject
  | .nativeFunction _ => .nativeFunction

def Content.payload : Content → List UInt8
  | .none => []
  | .byte v => FixedWidth.encode v
  | .integer v => FixedWidth.encode v
  | .long v => FixedWidth.encode v
  | .float v => FixedWidth.encode v
  | .double v => FixedWidth.encode v
  | .string v =>
    FixedWidth.encode (UInt32.ofNat (Utf8.encode v).length) ++ Utf8.encode v
  | .function v => FixedWidth.encode v.library ++ FixedWidth.encode v.index
  | .nativeObject index => FixedWidth.encode index
  | .nativeFunction index => FixedWidth.encode index

namespace Cell

def kind : Cell → Kind
  | .plain content => content.kind
  | .list .. => .list
  | .item .. => .listItem
  | .object .. => .object

def payload : Cell → List UInt8
  | .plain content => content.payload
  | .list first last count =>
    FixedWidth.encode first ++ FixedWidth.encode last ++ FixedWidth.encode count
  | .item content next => FixedWidth.encode content ++ FixedWidth.encode next
  | .object keys values => FixedWidth.encode keys ++ FixedWidth.encode values

def bytes (c : Cell) : List UInt8 := c.kind.tag :: c.payload

def size (c : Cell) : UInt32 := UInt32.ofNat c.payload.length

/-- The bytes of cells that lie one after the other. -/
def join (cells : List Cell) : List UInt8 := cells.flatMap bytes

/-- The cell that starts at a position. -/
def find? : List Cell → Nat → Option Cell
  | [], _ => none
  | c :: cells, position =>
    if position = 0 then some c
    else if position < c.bytes.length then none
    else find? cells (position - c.bytes.length)

theorem kind_ne_value (c : Cell) : c.kind ≠ .value := by
  cases c with
  | plain content => cases content <;> simp [kind, Content.kind]
  | list | item | object => simp [kind]

theorem eq_plain_of_kind {c : Cell} (content : Content) (kind : c.kind = content.kind) :
    ∃ old, c = .plain old := by
  cases c with
  | plain old => exact ⟨old, rfl⟩
  | list | item | object => cases content <;> cases kind

theorem eq_string_of_kind {c : Cell} (kind : c.kind = .string) : ∃ s, c = .plain (.string s) := by
  cases c with
  | plain content =>
    cases content with
    | string s => exact ⟨s, rfl⟩
    | _ => cases kind
  | list | item | object => cases kind

theorem eq_list_of_kind {c : Cell} (kind : c.kind = .list) :
    ∃ first last count, c = .list first last count := by
  cases c with
  | plain content => cases content <;> cases kind
  | list first last count => exact ⟨first, last, count, rfl⟩
  | item | object => cases kind

theorem eq_item_of_kind {c : Cell} (kind : c.kind = .listItem) :
    ∃ content next, c = .item content next := by
  cases c with
  | plain content => cases content <;> cases kind
  | item content next => exact ⟨content, next, rfl⟩
  | list | object => cases kind

theorem eq_object_of_kind {c : Cell} (kind : c.kind = .object) :
    ∃ keys values, c = .object keys values := by
  cases c with
  | plain content => cases content <;> cases kind
  | object keys values => exact ⟨keys, values, rfl⟩
  | list | item => cases kind

theorem payload_length {c : Cell} (fixed : c.kind ≠ .string) :
    c.payload.length = c.kind.fixedSize.toNat := by
  cases c with
  | plain content =>
    cases content with
    | string v => exact absurd rfl fixed
    | _ => simp [payload, Content.payload, kind, Content.kind, FixedWidth.length_encode,
        Kind.fixedSize] <;> rfl
  | list | item | object =>
    simp [payload, kind, FixedWidth.length_encode, Kind.fixedSize]
    rfl

theorem bytes_length (c : Cell) : c.bytes.length = c.payload.length + 1 := rfl

@[simp] theorem join_nil : join [] = [] := rfl

@[simp] theorem join_cons (c : Cell) (cells : List Cell) :
    join (c :: cells) = c.bytes ++ join cells := by simp [join]

@[simp] theorem join_append (before after : List Cell) :
    join (before ++ after) = join before ++ join after := by simp [join]

theorem find?_eq_some {cells : List Cell} {position : Nat} {c : Cell}
    (found : find? cells position = some c) :
    ∃ before after, cells = before ++ c :: after ∧ (join before).length = position := by
  induction cells generalizing position with
  | nil => cases found
  | cons d cells ih =>
    rw [find?] at found
    split at found
    case isTrue start =>
      cases found
      exact ⟨[], cells, rfl, start.symm⟩
    case isFalse =>
      split at found
      case isTrue => cases found
      case isFalse past =>
        obtain ⟨before, after, rfl, length⟩ := ih found
        refine ⟨d :: before, after, rfl, ?_⟩
        rw [join_cons, List.length_append]
        omega

/-- No cell starts where a row ends. -/
theorem find?_join_length (cells : List Cell) : find? cells (join cells).length = none := by
  induction cells with
  | nil => rfl
  | cons c cells ih =>
    have longer := c.bytes_length
    rw [find?, join_cons, List.length_append, if_neg (by omega), if_neg (by omega),
      Nat.add_sub_cancel_left]
    exact ih

theorem find?_push (cells : List Cell) (c : Cell) (position : Nat) :
    find? (cells ++ [c]) position =
      if position = (join cells).length then some c else find? cells position := by
  induction cells generalizing position with
  | nil => by_cases start : position = 0 <;> simp [find?, start]
  | cons d cells ih =>
    have longer := d.bytes_length
    simp only [List.cons_append, find?, ih, join_cons, List.length_append]
    grind

theorem find?_replace {c d : Cell} (same : d.bytes.length = c.bytes.length)
    (before after : List Cell) (position : Nat) :
    find? (before ++ d :: after) position =
      if position = (join before).length then some d
      else find? (before ++ c :: after) position := by
  induction before generalizing position with
  | nil => simp only [List.nil_append, find?, same, join_nil, List.length_nil]; grind
  | cons e before ih =>
    have longer := e.bytes_length
    simp only [List.cons_append, find?, ih, join_cons, List.length_append]
    grind

end Cell
end ValueArena
