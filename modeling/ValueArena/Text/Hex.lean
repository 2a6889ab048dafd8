/-!
Numbers as a fixed count of hex digits, most significant first. Digits are written in lower case and
read in either; `value_digits` reads them back.
-/
namespace ValueArena.Hex

/-- The lowest `width` hex digits of `n`. -/
def digits : Nat → Nat → List Char
  | 0, _ => []
  | width + 1, n => digits width (n / 16) ++ [Nat.digitChar (n % 16)]

/-- The value of a digit of either case. -/
def digitValue (c : Char) : Nat :=
  if c.toNat < 'A'.toNat then c.toNat - '0'.toNat
  else if c.toNat < 'a'.toNat then c.toNat - 'A'.toNat + 10
  else c.toNat - 'a'.toNat + 10

def value (cs : List Char) : Nat := cs.foldl (fun n c => 16 * n + digitValue c) 0

/-- The text `0x` and `width` digits. -/
def text (width n : Nat) : String := "0x" ++ String.ofList (digits width n)

@[simp] theorem length_digits (width n : Nat) : (digits width n).length = width := by
  induction width generalizing n with
  | zero => rfl
  | succ width ih => simp [digits, ih]

theorem digitValue_digitChar {n : Nat} (h : n < 16) : digitValue (Nat.digitChar n) = n := by
  revert n
  decide

theorem value_digits {width n : Nat} (h : n < Nat.pow 16 width) : value (digits width n) = n := by
  induction width generalizing n with
  | zero =>
    have : n = 0 := Nat.lt_one_iff.mp h
    subst this
    rfl
  | succ width ih =>
    have bound : n < Nat.pow 16 width * 16 := h
    have quotient := ih (n := n / 16) (by omega)
    rw [value] at quotient
    rw [digits, value, List.foldl_append, quotient]
    simp only [List.foldl_cons, List.foldl_nil]
    rw [digitValue_digitChar (by omega)]
    omega

end ValueArena.Hex
