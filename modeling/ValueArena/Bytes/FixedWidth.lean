import ValueArena.Bytes.LittleEndian

/-!
Types whose values are stored in a fixed number of bytes. Encoding and decoding are inverse, so a
stored value and its bytes determine each other.
-/
namespace ValueArena

class FixedWidth (α : Type) where
  width : Nat
  encode : α → List UInt8
  decode : List UInt8 → α
  length_encode (a : α) : (encode a).length = width
  decode_encode (a : α) : decode (encode a) = a
  encode_decode {bs : List UInt8} (h : bs.length = width) : encode (decode bs) = bs

namespace FixedWidth

/-- The bytes of a value are those of another that stands for it. -/
@[reducible] def ofInverse [FixedWidth β] (word : α → β) (value : β → α)
    (value_word : ∀ a, value (word a) = a) (word_value : ∀ b, word (value b) = b) :
    FixedWidth α where
  width := width β
  encode a := encode (word a)
  decode bs := value (decode bs)
  length_encode a := length_encode (word a)
  decode_encode a := by rw [decode_encode, value_word]
  encode_decode h := by rw [word_value, encode_decode h]

instance : FixedWidth UInt8 where
  width := 1
  encode v := LittleEndian.toBytes 1 v.toNat
  decode bs := UInt8.ofNat (LittleEndian.ofBytes bs)
  length_encode v := by simp
  decode_encode v := by rw [LittleEndian.ofBytes_toBytes v.toNat_lt, UInt8.ofNat_toNat]
  encode_decode {bs} h := by
    have bound := LittleEndian.ofBytes_lt bs
    rw [h] at bound
    rw [UInt8.toNat_ofNat', Nat.mod_eq_of_lt (by omega), ← h, LittleEndian.toBytes_ofBytes]

instance : FixedWidth UInt32 where
  width := 4
  encode v := LittleEndian.toBytes 4 v.toNat
  decode bs := UInt32.ofNat (LittleEndian.ofBytes bs)
  length_encode v := by simp
  decode_encode v := by rw [LittleEndian.ofBytes_toBytes v.toNat_lt, UInt32.ofNat_toNat]
  encode_decode {bs} h := by
    have bound := LittleEndian.ofBytes_lt bs
    rw [h] at bound
    rw [UInt32.toNat_ofNat', Nat.mod_eq_of_lt (by omega), ← h, LittleEndian.toBytes_ofBytes]

instance : FixedWidth UInt64 where
  width := 8
  encode v := LittleEndian.toBytes 8 v.toNat
  decode bs := UInt64.ofNat (LittleEndian.ofBytes bs)
  length_encode v := by simp
  decode_encode v := by rw [LittleEndian.ofBytes_toBytes v.toNat_lt, UInt64.ofNat_toNat]
  encode_decode {bs} h := by
    have bound := LittleEndian.ofBytes_lt bs
    rw [h] at bound
    rw [UInt64.toNat_ofNat', Nat.mod_eq_of_lt (by omega), ← h, LittleEndian.toBytes_ofBytes]

instance : FixedWidth Int32 :=
  ofInverse Int32.toUInt32 UInt32.toInt32 (fun _ => rfl) (fun _ => rfl)

instance : FixedWidth Int64 :=
  ofInverse Int64.toUInt64 UInt64.toInt64 (fun _ => rfl) (fun _ => rfl)

end FixedWidth
end ValueArena
