import SessionTokens.Proofs.Text.Bytes

/-! # Decoding takes encoded text back

A character is given by its number, and the ranges of the number decide how many bytes it has. Each
range is one lemma about the decoder; together they say that encoding loses nothing.
-/

namespace SessionTokens.Text.Utf8

/-- A character is no surrogate, and none is beyond the last plane. -/
theorem toNat_range (c : Char) : c.toNat < 0xD800 ∨ 0xDFFF < c.toNat ∧ c.toNat < 0x110000 := c.valid

/-- A byte of an open sequence after which more are to come. -/
theorem decodeFrom_more {index n bits more low high taken : Nat} (rest : List UInt8)
    (hn : n < 256) (hlow : low ≤ n) (hhigh : n ≤ high) :
    decodeFrom index (some ⟨bits, more + 2, low, high, taken⟩) (UInt8.ofNat n :: rest) =
      decodeFrom index (some ⟨bits * 64 + (n - 0x80), more + 1, 0x80, 0xBF, taken + 1⟩) rest := by
  rw [decodeFrom, Open.push?, toNat_byte hn, if_pos ⟨hlow, hhigh⟩]
  simp

/-- The last byte of an open sequence. -/
theorem decodeFrom_last {index n bits low high taken : Nat} (rest : List UInt8)
    (hn : n < 256) (hlow : low ≤ n) (hhigh : n ≤ high) :
    decodeFrom index (some ⟨bits, 1, low, high, taken⟩) (UInt8.ofNat n :: rest) =
      (decodeFrom (index + (taken + 1)) none rest).map
        (Char.ofNat (bits * 64 + (n - 0x80)) :: ·) := by
  rw [decodeFrom, Open.push?, toNat_byte hn, if_pos ⟨hlow, hhigh⟩]
  simp

theorem decodeFrom_one {index : Nat} {c : Char} (rest : List UInt8) (h : c.toNat < 0x80) :
    decodeFrom index none (encodeChar c ++ rest) =
      (decodeFrom (index + 1) none rest).map (c :: ·) := by
  have hbyte : (UInt8.ofNat c.toNat).toNat = c.toNat := toNat_byte (by omega)
  rw [encodeChar_ascii h, List.singleton_append, decodeFrom]
  simp only [start, hbyte, h, if_true, Char.ofNat_toNat]

/-- What a first byte of two, three or four bytes begins, given by the value of its free bits. -/
theorem start_two {k : Nat} (hlow : 2 ≤ k) (hhigh : k < 32) :
    start (UInt8.ofNat (0xC0 + k)) = .sequence ⟨k, 1, 0x80, 0xBF, 1⟩ := by
  have hbyte : (UInt8.ofNat (0xC0 + k)).toNat = 0xC0 + k := toNat_byte (by omega)
  simp only [start, hbyte]
  rw [if_neg (by omega), if_neg (by omega), if_pos (by omega)]
  simp

theorem start_three {k : Nat} (hhigh : k < 16) :
    start (UInt8.ofNat (0xE0 + k)) =
      .sequence ⟨k, 2, if k = 0 then 0xA0 else 0x80, if k = 13 then 0x9F else 0xBF, 1⟩ := by
  have hbyte : (UInt8.ofNat (0xE0 + k)).toNat = 0xE0 + k := toNat_byte (by omega)
  simp only [start, hbyte]
  rw [if_neg (by omega), if_neg (by omega), if_neg (by omega)]
  by_cases hzero : k = 0
  · simp [hzero]
  by_cases hsurrogate : k = 13
  · simp [hsurrogate]
  · rw [if_neg (by omega), if_neg (by omega), if_pos (by omega), if_neg hzero, if_neg hsurrogate]
    simp

theorem start_four {k : Nat} (hhigh : k < 5) :
    start (UInt8.ofNat (0xF0 + k)) =
      .sequence ⟨k, 3, if k = 0 then 0x90 else 0x80, if k = 4 then 0x8F else 0xBF, 1⟩ := by
  have hbyte : (UInt8.ofNat (0xF0 + k)).toNat = 0xF0 + k := toNat_byte (by omega)
  simp only [start, hbyte]
  have hcases : k = 0 ∨ k = 4 ∨ (0 < k ∧ k < 4) := by omega
  rcases hcases with rfl | rfl | ⟨hlow, hlt⟩
  · simp
  · simp
  · rw [if_neg (by omega), if_neg (by omega), if_neg (by omega), if_neg (by omega),
      if_neg (by omega), if_neg (by omega), if_neg (by omega), if_pos (by omega),
      if_neg (by omega), if_neg (by omega)]
    simp

theorem decodeFrom_two {index : Nat} {c : Char} (rest : List UInt8) (hlow : 0x80 ≤ c.toNat)
    (hhigh : c.toNat < 0x800) :
    decodeFrom index none (encodeChar c ++ rest) =
      (decodeFrom (index + 2) none rest).map (c :: ·) := by
  have hbits : c.toNat / 64 * 64 + (0x80 + c.toNat % 64 - 0x80) = c.toNat := by omega
  rw [encodeChar, encodeScalar, if_neg (by omega), if_pos hhigh]
  simp only [List.map_cons, List.map_nil, List.cons_append, List.nil_append]
  rw [decodeFrom, start_two (by omega) (by omega)]
  simp only
  rw [decodeFrom_last _ (by omega) (by omega) (by omega), hbits, Char.ofNat_toNat]

theorem decodeFrom_three {index : Nat} {c : Char} (rest : List UInt8) (hlow : 0x800 ≤ c.toNat)
    (hhigh : c.toNat < 0x10000) :
    decodeFrom index none (encodeChar c ++ rest) =
      (decodeFrom (index + 3) none rest).map (c :: ·) := by
  have hrange := toNat_range c
  have hbits : (c.toNat / 4096 * 64 + (0x80 + c.toNat / 64 % 64 - 0x80)) * 64 +
      (0x80 + c.toNat % 64 - 0x80) = c.toNat := by omega
  rw [encodeChar, encodeScalar, if_neg (by omega), if_neg (by omega), if_pos hhigh]
  simp only [List.map_cons, List.map_nil, List.cons_append, List.nil_append]
  rw [decodeFrom, start_three (by omega)]
  simp only
  rw [decodeFrom_more _ (by omega) (by split <;> omega) (by split <;> omega),
    decodeFrom_last _ (by omega) (by omega) (by omega), hbits, Char.ofNat_toNat]

theorem decodeFrom_four {index : Nat} {c : Char} (rest : List UInt8) (hlow : 0x10000 ≤ c.toNat) :
    decodeFrom index none (encodeChar c ++ rest) =
      (decodeFrom (index + 4) none rest).map (c :: ·) := by
  have hrange := toNat_range c
  have hbits : ((c.toNat / 262144 * 64 + (0x80 + c.toNat / 4096 % 64 - 0x80)) * 64 +
      (0x80 + c.toNat / 64 % 64 - 0x80)) * 64 + (0x80 + c.toNat % 64 - 0x80) = c.toNat := by omega
  rw [encodeChar, encodeScalar, if_neg (by omega), if_neg (by omega), if_neg (by omega)]
  simp only [List.map_cons, List.map_nil, List.cons_append, List.nil_append]
  rw [decodeFrom, start_four (by omega)]
  simp only
  rw [decodeFrom_more _ (by omega) (by split <;> omega) (by split <;> omega),
    decodeFrom_more _ (by omega) (by omega) (by omega),
    decodeFrom_last _ (by omega) (by omega) (by omega), hbits, Char.ofNat_toNat]

/-- The decoder takes exactly the bytes of a character from their front. -/
theorem decodeFrom_encodeChar (index : Nat) (c : Char) (rest : List UInt8) :
    ∃ next, decodeFrom index none (encodeChar c ++ rest) =
      (decodeFrom next none rest).map (c :: ·) := by
  by_cases hone : c.toNat < 0x80
  · exact ⟨_, decodeFrom_one rest hone⟩
  by_cases htwo : c.toNat < 0x800
  · exact ⟨_, decodeFrom_two rest (by omega) htwo⟩
  by_cases hthree : c.toNat < 0x10000
  · exact ⟨_, decodeFrom_three rest (by omega) hthree⟩
  · exact ⟨_, decodeFrom_four rest (by omega)⟩

theorem decodeFrom_encode (index : Nat) (text : List Char) :
    decodeFrom index none (encode text) = .ok text := by
  induction text generalizing index with
  | nil => rfl
  | cons c text ih =>
      obtain ⟨next, heq⟩ := decodeFrom_encodeChar index c (encode text)
      rw [encode_cons, heq, ih]
      rfl

/-- Decoding the bytes of a text gives the text. -/
theorem decode_encode (text : List Char) : decode (encode text) = .ok text :=
  decodeFrom_encode 0 text

theorem encode_injective {text other : List Char} (h : encode text = encode other) :
    text = other := by
  have heq := congrArg decode h
  rw [decode_encode, decode_encode] at heq
  exact Except.ok.inj heq

end SessionTokens.Text.Utf8
