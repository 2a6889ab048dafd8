/-!
UTF-8 bytes of a text, and the reading of any bytes as text. Each longest run of bytes that begins a
character without completing it reads as one replacement character; `decode_encode` says that
nothing is replaced in the bytes of a text.
-/
namespace ValueArena.Utf8

def encodeChars (cs : List Char) : List UInt8 := cs.flatMap String.utf8EncodeChar

def encode (s : String) : List UInt8 := encodeChars s.toList

theorem toByteArray_encode (s : String) : (encode s).toByteArray = s.toByteArray :=
  String.utf8Encode_toList

theorem length_encode (s : String) : (encode s).length = s.utf8ByteSize := by
  rw [← String.size_toByteArray, ← toByteArray_encode, List.size_toByteArray]

def replacement : Char := '\uFFFD'

/-- A character begun but not complete: `missing + 1` bytes to come, the next between `low` and
`high`, and the bits read so far. -/
structure Partial where
  missing : Nat
  low : Nat
  high : Nat
  code : Nat
  deriving DecidableEq, Repr

/-- What a first byte begins. The narrow ranges keep out overlong forms, surrogates and codes past
the last character. -/
def lead? (b : Nat) : Option Partial :=
  if 0xC2 ≤ b ∧ b < 0xE0 then some ⟨0, 0x80, 0xBF, b - 0xC0⟩
  else if 0xE0 ≤ b ∧ b < 0xF0 then
    some ⟨1, if b = 0xE0 then 0xA0 else 0x80, if b = 0xED then 0x9F else 0xBF, b - 0xE0⟩
  else if 0xF0 ≤ b ∧ b < 0xF5 then
    some ⟨2, if b = 0xF0 then 0x90 else 0x80, if b = 0xF4 then 0x8F else 0xBF, b - 0xF0⟩
  else none

/-- The characters settled by a byte where one may begin, and the character left incomplete. -/
def start (b : Nat) : List Char × Option Partial :=
  if b < 0x80 then ([Char.ofNat b], none)
  else
    match lead? b with
    | some p => ([], some p)
    | none => ([replacement], none)

def advance (p : Partial) (b : Nat) : List Char × Option Partial :=
  if p.low ≤ b ∧ b ≤ p.high then
    let code := p.code * 64 + (b - 0x80)
    match p.missing with
    | 0 => ([Char.ofNat code], none)
    | missing + 1 => ([], some ⟨missing, 0x80, 0xBF, code⟩)
  else
    let (settled, next) := start b
    (replacement :: settled, next)

def decodeFrom : Option Partial → List UInt8 → List Char
  | none, [] => []
  | some _, [] => [replacement]
  | none, b :: bs =>
    let (settled, next) := start b.toNat
    settled ++ decodeFrom next bs
  | some p, b :: bs =>
    let (settled, next) := advance p b.toNat
    settled ++ decodeFrom next bs

def decode (bs : List UInt8) : String := String.ofList (decodeFrom none bs)

theorem decodeFrom_ascii {b : UInt8} {bs : List UInt8} (h : b.toNat < 0x80) :
    decodeFrom none (b :: bs) = Char.ofNat b.toNat :: decodeFrom none bs := by
  simp [decodeFrom, start, h]

theorem decodeFrom_lead {b : UInt8} {bs : List UInt8} {p : Partial}
    (h : lead? b.toNat = some p) :
    decodeFrom none (b :: bs) = decodeFrom (some p) bs := by
  have high : ¬ b.toNat < 0x80 := by
    intro low
    simp [lead?, Nat.not_le.mpr (Nat.lt_trans low (by decide : 0x80 < 0xC2)),
      Nat.not_le.mpr (Nat.lt_trans low (by decide : 0x80 < 0xE0)),
      Nat.not_le.mpr (Nat.lt_trans low (by decide : 0x80 < 0xF0))] at h
  simp [decodeFrom, start, h, high]

theorem decodeFrom_last {b : UInt8} {bs : List UInt8} {low high code : Nat}
    (h : low ≤ b.toNat ∧ b.toNat ≤ high) :
    decodeFrom (some ⟨0, low, high, code⟩) (b :: bs) =
      Char.ofNat (code * 64 + (b.toNat - 0x80)) :: decodeFrom none bs := by
  simp [decodeFrom, advance, h]

theorem decodeFrom_more {b : UInt8} {bs : List UInt8} {missing low high code : Nat}
    (h : low ≤ b.toNat ∧ b.toNat ≤ high) :
    decodeFrom (some ⟨missing + 1, low, high, code⟩) (b :: bs) =
      decodeFrom (some ⟨missing, 0x80, 0xBF, code * 64 + (b.toNat - 0x80)⟩) bs := by
  simp [decodeFrom, advance, h]

theorem decodeFrom_encodeChar (c : Char) (bs : List UInt8) :
    decodeFrom none (String.utf8EncodeChar c ++ bs) = c :: decodeFrom none bs := by
  have valid : c.val.toNat < 0xD800 ∨ 0xDFFF < c.val.toNat ∧ c.val.toNat < 0x110000 := c.valid
  have byte : ∀ n < 256, (UInt8.ofNat n).toNat = n := fun n h => by
    rw [UInt8.toNat_ofNat', Nat.mod_eq_of_lt h]
  have back : ∀ n, n = c.val.toNat → Char.ofNat n = c := fun n h => h ▸ Char.ofNat_toNat c
  rw [String.utf8EncodeChar]
  generalize c.val.toNat = v at valid back
  split
  · rw [List.singleton_append, decodeFrom_ascii (by grind), back _ (by grind)]
  split
  · simp only [List.cons_append, List.nil_append]
    rw [decodeFrom_lead (p := ⟨0, 0x80, 0xBF, v / 64⟩) (by grind [lead?]),
      decodeFrom_last (by grind), back _ (by grind)]
  split
  · simp only [List.cons_append, List.nil_append]
    rw [decodeFrom_lead
        (p := ⟨1, if v / 4096 = 0 then 0xA0 else 0x80, if v / 4096 = 13 then 0x9F else 0xBF,
          v / 4096⟩)
        (by grind [lead?]),
      decodeFrom_more (by grind), decodeFrom_last (by grind), back _ (by grind)]
  · simp only [List.cons_append, List.nil_append]
    rw [decodeFrom_lead
        (p := ⟨2, if v / 262144 = 0 then 0x90 else 0x80, if v / 262144 = 4 then 0x8F else 0xBF,
          v / 262144⟩)
        (by grind [lead?]),
      decodeFrom_more (by grind), decodeFrom_more (by grind), decodeFrom_last (by grind),
      back _ (by grind)]

theorem decodeFrom_encodeChars (cs : List Char) : decodeFrom none (encodeChars cs) = cs := by
  induction cs with
  | nil => rfl
  | cons c cs ih => rw [encodeChars, List.flatMap_cons, decodeFrom_encodeChar, ← encodeChars, ih]

theorem decode_encode (s : String) : decode (encode s) = s := by
  rw [decode, encode, decodeFrom_encodeChars, String.ofList_toList]

end ValueArena.Utf8
