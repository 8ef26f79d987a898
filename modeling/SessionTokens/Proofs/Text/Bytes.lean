import SessionTokens.Text.Utf8

/-! # Bytes given by their numbers -/

namespace SessionTokens.Text

theorem toNat_byte {n : Nat} (h : n < 256) : (UInt8.ofNat n).toNat = n :=
  UInt8.toNat_ofNat_of_lt' h

theorem byte_eq {b : UInt8} {n : Nat} (h : n = b.toNat) : UInt8.ofNat n = b := by
  rw [h, UInt8.ofNat_toNat]

namespace Utf8

@[simp] theorem encode_nil : encode [] = [] := rfl

@[simp] theorem encode_cons (c : Char) (text : List Char) :
    encode (c :: text) = encodeChar c ++ encode text := rfl

@[simp] theorem encode_append (text other : List Char) :
    encode (text ++ other) = encode text ++ encode other := List.flatMap_append

/-- A character of ASCII is one byte. -/
theorem encodeChar_ascii {c : Char} (h : c.toNat < 0x80) :
    encodeChar c = [UInt8.ofNat c.toNat] := by
  rw [encodeChar, encodeScalar, if_pos h]
  rfl

end Utf8

end SessionTokens.Text
