import Mathlib
import ValueArena.Proofs.Memory.Address
import ValueArena.Value.Handle

/-!
Texts that tell values apart. Each part of a handle's text is found again in it, so that handles with
one text are one handle; addresses are written with a fixed count of digits, so that their texts are
ordered as they are.
-/
namespace ValueArena

namespace Hex

/-- All digits, each at the place of its value. -/
def lowerDigits : List Char := "0123456789abcdef".toList

theorem mem_lowerDigits {width n : Nat} {c : Char} (member : c ∈ digits width n) :
    c ∈ lowerDigits := by
  have digit : ∀ d < 16, Nat.digitChar d ∈ lowerDigits := by decide
  induction width generalizing n with
  | zero => cases member
  | succ width ih =>
    rcases List.mem_append.mp member with early | last
    · exact ih early
    · rw [List.mem_singleton.mp last]
      exact digit _ (Nat.mod_lt n (by decide))

theorem digitChar_lt {m n : Nat} (less : m < n) (bound : n < 16) :
    Nat.digitChar m < Nat.digitChar n := by
  have all : ∀ n < 16, ∀ m < n, Nat.digitChar m < Nat.digitChar n := by decide
  exact all n bound m less

/-- Of lists as long as each other the first difference decides, whatever comes behind them. -/
theorem append_lt_append {u v s t : List Char} (length : u.length = v.length) (less : u < v) :
    u ++ s < v ++ t := by
  induction u generalizing v with
  | nil =>
    rw [List.length_eq_zero_iff.mp length.symm] at less
    exact absurd less (lt_irrefl _)
  | cons c u ih =>
    cases v with
    | nil => cases length
    | cons d v =>
      rcases List.cons_lt_cons_iff.mp less with first | ⟨rfl, later⟩
      · exact List.cons_lt_cons_iff.mpr (.inl first)
      · exact List.cons_lt_cons_iff.mpr (.inr ⟨rfl, ih (Nat.succ.inj length) later⟩)

/-- The last digit decides only between numbers that have all others in common. -/
theorem digits_lt_digits {width m n : Nat} (bound : n < Nat.pow 16 width) (less : m < n) :
    digits width m < digits width n := by
  induction width generalizing m n with
  | zero =>
    have : n < 1 := bound
    omega
  | succ width ih =>
    have bound : n < Nat.pow 16 width * 16 := bound
    by_cases same : m / 16 = n / 16
    · rw [digits, digits, same]
      exact List.append_left_lt (List.cons_lt_cons_iff.mpr
        (.inl (digitChar_lt (by omega) (Nat.mod_lt n (by decide)))))
    · exact append_lt_append (by simp) (ih (by omega) (by omega))

theorem text_lt_text {width m n : Nat} (bound : n < Nat.pow 16 width) (less : m < n) :
    text width m < text width n := by
  simp only [String.lt_iff_toList_lt, text, String.toList_append, String.toList_ofList]
  exact List.append_left_lt (digits_lt_digits bound less)

theorem compare_text {width m n : Nat} (bound : m < Nat.pow 16 width)
    (bound' : n < Nat.pow 16 width) : compare (text width m) (text width n) = compare m n := by
  rcases lt_trichotomy m n with less | rfl | more
  · rw [compare_lt_iff_lt.mpr less, compare_lt_iff_lt.mpr (text_lt_text bound' less)]
  · rw [compare_eq_iff_eq.mpr rfl, compare_eq_iff_eq.mpr rfl]
  · rw [compare_gt_iff_gt.mpr more, compare_gt_iff_gt.mpr (text_lt_text bound more)]

end Hex

namespace Addr

theorem raw_lt (a : Addr) : a.raw.toNat < Nat.pow 16 16 := a.raw.toNat_lt

theorem compare_text (a b : Addr) : compare a.text b.text = compare a b := by
  rw [compare_eq]
  exact Hex.compare_text a.raw_lt b.raw_lt

example : text ⟨0x1f⟩ = "0x000000000000001f" := by decide

theorem text_injective : Function.Injective text := by
  intro a b same
  have order := compare_text a b
  rw [same, compare_eq_iff_eq.mpr rfl, compare_eq] at order
  have raw := UInt64.toNat_inj.mp (compare_eq_iff_eq.mp order.symm)
  exact congrArg mk raw

end Addr

namespace Kind

theorem name_injective : Function.Injective name := fun a b =>
  List.inj_on_of_nodup_map (by decide : (all.map name).Nodup) (mem_all a) (mem_all b)

theorem quote_not_mem_name (k : Kind) : '"' ∉ k.name.toList := by cases k <;> decide

end Kind

/-- What stands before the first `c` and what stands behind it. -/
theorem cut_unique {u v s t : List Char} {c : Char} (before : c ∉ u) (before' : c ∉ v)
    (same : u ++ c :: s = v ++ c :: t) : u = v ∧ s = t := by
  induction u generalizing v with
  | nil =>
    cases v with
    | nil => exact ⟨rfl, (List.cons.inj same).2⟩
    | cons d v => exact absurd (List.cons.inj same).1 (List.ne_of_not_mem_cons before')
  | cons d u ih =>
    cases v with
    | nil => exact absurd (List.cons.inj same).1.symm (List.ne_of_not_mem_cons before)
    | cons e v =>
      obtain ⟨rfl, rest⟩ := List.cons.inj same
      obtain ⟨rfl, tails⟩ := ih (List.not_mem_of_not_mem_cons before)
        (List.not_mem_of_not_mem_cons before') rest
      exact ⟨rfl, tails⟩

theorem comma_not_mem_repr (n : Nat) : ',' ∉ (Nat.repr n).toList := by
  intro member
  rw [Nat.toList_repr] at member
  exact absurd (Nat.isDigit_of_mem_toDigits (by decide) (by decide) member) (by decide)

namespace Handle

/-- What a text says last: the value that the handle carries or the address that it names. -/
def contentText : Handle → String
  | .immediate v => "Content:" ++ Int.repr v.toInt
  | .stored d => "Addr:" ++ d.addr.text

theorem text_immediate (v : Int64) :
    (immediate v).text = "\x7bType:\"Value\", Size:0, Content:" ++ Int.repr v.toInt ++ "\x7d" := rfl

theorem text_stored (d : Descriptor) : (stored d).text = "\x7bType:\"" ++ d.kind.name ++
    "\", Size:" ++ Nat.repr d.size.toNat ++ ", Addr:" ++ d.addr.text ++ "\x7d" := rfl

theorem text_eq (h : Handle) : h.text = "\x7bType:\"" ++ (h.kind.name ++ ("\"" ++ (", Size:" ++
    (Nat.repr h.size.toNat ++ ("," ++ (" " ++ (h.contentText ++ "\x7d"))))))) := by
  cases h with
  | immediate v =>
    have front : "\x7bType:\"Value\", Size:0, Content:" = "\x7bType:\"" ++
        ("Value" ++ ("\"" ++ (", Size:" ++ ("0" ++ ("," ++ (" " ++ "Content:")))))) := by decide
    have zero : Nat.repr (0 : UInt32).toNat = "0" := by decide
    simp only [text_immediate, kind, size, contentText, Kind.name, front, zero,
      String.append_assoc]
  | stored d =>
    have size : "\", Size:" = "\"" ++ ", Size:" := by decide
    have addr : ", Addr:" = "," ++ (" " ++ "Addr:") := by decide
    simp only [text_stored, kind, Handle.size, contentText, size, addr, String.append_assoc]

theorem toList_text (h : Handle) : h.text.toList = "\x7bType:\"".toList ++ (h.kind.name.toList ++
    '"' :: (", Size:".toList ++ ((Nat.repr h.size.toNat).toList ++
      ',' :: (" ".toList ++ (h.contentText.toList ++ "\x7d".toList))))) := by
  have quote : "\"".toList = ['"'] := by decide
  have comma : ",".toList = [','] := by decide
  rw [text_eq]
  simp only [String.toList_append, quote, comma, List.singleton_append]

/-- The name of the kind ends at a quote, the size at a comma. -/
theorem parts_of_text {a b : Handle} (same : a.text = b.text) :
    a.kind = b.kind ∧ a.size = b.size ∧ a.contentText = b.contentText := by
  have lists := congrArg String.toList same
  rw [toList_text, toList_text] at lists
  obtain ⟨names, behind⟩ := cut_unique a.kind.quote_not_mem_name b.kind.quote_not_mem_name
    (List.append_cancel_left lists)
  obtain ⟨sizes, rest⟩ := cut_unique (comma_not_mem_repr _) (comma_not_mem_repr _)
    (List.append_cancel_left behind)
  have contents := List.append_cancel_right (List.append_cancel_left rest)
  exact ⟨Kind.name_injective (String.toList_inj.mp names),
    UInt32.toNat_inj.mp (Nat.repr_injective (String.toList_inj.mp sizes)),
    String.toList_inj.mp contents⟩

/-- Nothing else tells an immediate from a stored value of its kind without a payload. -/
theorem contentText_ne (v : Int64) (d : Descriptor) :
    (immediate v).contentText ≠ (stored d).contentText := by
  intro same
  have first := congrArg (·.toList.head?) same
  simp [contentText] at first

theorem text_injective : Function.Injective text := by
  intro a b same
  obtain ⟨kinds, sizes, contents⟩ := parts_of_text same
  cases a with
  | immediate v =>
    cases b with
    | immediate w =>
      have values := Int.repr_injective ((String.append_right_inj "Content:").mp contents)
      rw [Int64.toInt_inj.mp values]
    | stored e => exact absurd contents (contentText_ne v e)
  | stored d =>
    cases b with
    | immediate w => exact absurd contents.symm (contentText_ne w d)
    | stored e =>
      have addrs := Addr.text_injective ((String.append_right_inj "Addr:").mp contents)
      obtain ⟨kind, size, addr⟩ := d
      obtain ⟨kind', size', addr'⟩ := e
      cases kinds
      cases sizes
      cases addrs
      rfl

/-- What the texts of handles and of addresses tell. -/
structure TextsTell (a b : Handle) (x y : Addr) : Prop where
  handle : a.text = b.text ↔ a = b
  shown : ∀ d, a = .stored d → ∃ front, a.text = front ++ "Addr:" ++ d.addr.text ++ "\x7d"
  digits : ∃ digits : List Char, x.text = "0x" ++ String.ofList digits ∧ digits.length = 16 ∧
    (∀ c ∈ digits, c ∈ Hex.lowerDigits) ∧ Hex.value digits = x.raw.toNat
  order : compare x.text y.text = compare x y

theorem textsTell (a b : Handle) (x y : Addr) : TextsTell a b x y where
  handle := text_injective.eq_iff
  shown d stored := by
    subst stored
    refine ⟨"\x7bType:\"" ++ d.kind.name ++ "\", Size:" ++ Nat.repr d.size.toNat ++ ", ", ?_⟩
    have addr : ", Addr:" = ", " ++ "Addr:" := by decide
    simp only [text_stored, addr, String.append_assoc]
  digits := ⟨Hex.digits 16 x.raw.toNat, rfl, Hex.length_digits .., fun _ => Hex.mem_lowerDigits,
    Hex.value_digits x.raw_lt⟩
  order := Addr.compare_text x y

end Handle
end ValueArena
