import SessionTokens.Jwt.Base64Url
import SessionTokens.Proofs.Text.Bytes

/-! # Every sequence of bytes has one written form

Decoding takes exactly what encoding writes: nothing that was written is refused, and whatever is
accepted is the written form of what it decodes to. The bits that a shorter last group leaves over
are the place where this could fail.
-/

namespace SessionTokens.Jwt.Base64Url

open Text

theorem decodeSextet?_encodeSextet : ∀ n < 64, decodeSextet? (encodeSextet n) = some n := by decide

theorem encodeSextet_ne_dot : ∀ n < 64, encodeSextet n ≠ '.' := by decide

/-- The character of six bits is the only one that is read as them. -/
theorem decodeSextet?_eq_some {c : Char} {n : Nat} (h : decodeSextet? c = some n) :
    n < 64 ∧ encodeSextet n = c := by
  unfold decodeSextet? at h
  simp only at h
  split at h
  next hupper =>
    cases h
    refine ⟨by omega, ?_⟩
    rw [encodeSextet, if_pos (by omega), Nat.add_sub_cancel' hupper.1, Char.ofNat_toNat]
  split at h
  next hlower =>
    cases h
    refine ⟨by omega, ?_⟩
    rw [encodeSextet, if_neg (by omega), if_pos (by omega), Nat.add_sub_cancel,
      Nat.add_sub_cancel' hlower.1, Char.ofNat_toNat]
  split at h
  next hdigit =>
    cases h
    refine ⟨by omega, ?_⟩
    rw [encodeSextet, if_neg (by omega), if_neg (by omega), if_pos (by omega), Nat.add_sub_cancel,
      Nat.add_sub_cancel' hdigit.1, Char.ofNat_toNat]
  split at h
  next hdash => cases h; exact ⟨by omega, hdash.symm⟩
  split at h
  next hlow => cases h; exact ⟨by omega, hlow.symm⟩
  next => cases h

/-- Decoding gives back the bytes that were written. -/
theorem decode_encode (bytes : List UInt8) : decode (encode bytes) = some bytes := by
  induction bytes using encode.induct with
  | case1 a b c rest ih =>
      have ha := a.toNat_lt
      have hb := b.toNat_lt
      have hc := c.toNat_lt
      simp only [encode, decode, ih]
      rw [decodeSextet?_encodeSextet _ (by omega), decodeSextet?_encodeSextet _ (by omega),
        decodeSextet?_encodeSextet _ (by omega), decodeSextet?_encodeSextet _ (by omega)]
      simp only
      rw [byte_eq (b := a) (by omega), byte_eq (b := b) (by omega),
        byte_eq (b := c) (by omega)]
  | case2 a b =>
      have ha := a.toNat_lt
      have hb := b.toNat_lt
      simp only [encode, decode]
      rw [decodeSextet?_encodeSextet _ (by omega), decodeSextet?_encodeSextet _ (by omega),
        decodeSextet?_encodeSextet _ (by omega)]
      simp only
      rw [if_pos (by omega), byte_eq (b := a) (by omega), byte_eq (b := b) (by omega)]
  | case3 a =>
      have ha := a.toNat_lt
      simp only [encode, decode]
      rw [decodeSextet?_encodeSextet _ (by omega), decodeSextet?_encodeSextet _ (by omega)]
      simp only
      rw [if_pos (by omega), byte_eq (b := a) (by omega)]
  | case4 => rfl

/-- Four characters that are decoded are the written form of the three bytes. -/
theorem encode_group {a b c d : Nat} (rest : List UInt8) (ha : a < 64) (hb : b < 64) (hc : c < 64)
    (hd : d < 64) :
    encode (UInt8.ofNat (a * 4 + b / 16) :: UInt8.ofNat (b % 16 * 16 + c / 4) ::
        UInt8.ofNat (c % 4 * 64 + d) :: rest) =
      encodeSextet a :: encodeSextet b :: encodeSextet c :: encodeSextet d :: encode rest := by
  have hfirst : (a * 4 + b / 16) / 4 = a := by omega
  have hsecond : (a * 4 + b / 16) % 4 * 16 + (b % 16 * 16 + c / 4) / 16 = b := by omega
  have hthird : (b % 16 * 16 + c / 4) % 16 * 4 + (c % 4 * 64 + d) / 64 = c := by omega
  have hfourth : (c % 4 * 64 + d) % 64 = d := by omega
  rw [encode, toNat_byte (by omega), toNat_byte (by omega), toNat_byte (by omega), hfirst, hsecond,
    hthird, hfourth]

theorem encode_pair {a b c : Nat} (ha : a < 64) (hb : b < 64) (hc : c < 64) (hzero : c % 4 = 0) :
    encode [UInt8.ofNat (a * 4 + b / 16), UInt8.ofNat (b % 16 * 16 + c / 4)] =
      [encodeSextet a, encodeSextet b, encodeSextet c] := by
  have hfirst : (a * 4 + b / 16) / 4 = a := by omega
  have hsecond : (a * 4 + b / 16) % 4 * 16 + (b % 16 * 16 + c / 4) / 16 = b := by omega
  have hthird : (b % 16 * 16 + c / 4) % 16 * 4 = c := by omega
  rw [encode, toNat_byte (by omega), toNat_byte (by omega), hfirst, hsecond, hthird]

theorem encode_single {a b : Nat} (ha : a < 64) (hb : b < 64) (hzero : b % 16 = 0) :
    encode [UInt8.ofNat (a * 4 + b / 16)] = [encodeSextet a, encodeSextet b] := by
  have hfirst : (a * 4 + b / 16) / 4 = a := by omega
  have hsecond : (a * 4 + b / 16) % 4 * 16 = b := by omega
  rw [encode, toNat_byte (by omega), hfirst, hsecond]

/-- Decoding accepts nothing but written forms. -/
theorem encode_of_decode :
    ∀ {text : List Char} {bytes : List UInt8}, decode text = some bytes → encode bytes = text
  | a :: b :: c :: d :: rest, bytes, h => by
      rw [decode] at h
      split at h
      next ka kb kc kd tail ha hb hc hd htail =>
        cases h
        obtain ⟨hka, rfl⟩ := decodeSextet?_eq_some ha
        obtain ⟨hkb, rfl⟩ := decodeSextet?_eq_some hb
        obtain ⟨hkc, rfl⟩ := decodeSextet?_eq_some hc
        obtain ⟨hkd, rfl⟩ := decodeSextet?_eq_some hd
        rw [encode_group tail hka hkb hkc hkd, encode_of_decode htail]
      next => cases h
  | [a, b, c], bytes, h => by
      rw [decode] at h
      split at h
      next ka kb kc ha hb hc =>
        obtain ⟨hka, rfl⟩ := decodeSextet?_eq_some ha
        obtain ⟨hkb, rfl⟩ := decodeSextet?_eq_some hb
        obtain ⟨hkc, rfl⟩ := decodeSextet?_eq_some hc
        split at h
        next hzero => cases h; exact encode_pair hka hkb hkc hzero
        next => cases h
      next => cases h
  | [a, b], bytes, h => by
      rw [decode] at h
      split at h
      next ka kb ha hb =>
        obtain ⟨hka, rfl⟩ := decodeSextet?_eq_some ha
        obtain ⟨hkb, rfl⟩ := decodeSextet?_eq_some hb
        split at h
        next hzero => cases h; exact encode_single hka hkb hzero
        next => cases h
      next => cases h
  | [_], _, h => by cases h
  | [], bytes, h => by cases h; rfl

/-- A text is decoded to bytes exactly when it is their written form. -/
theorem decode_eq_some_iff {text : List Char} {bytes : List UInt8} :
    decode text = some bytes ↔ text = encode bytes :=
  ⟨fun h => (encode_of_decode h).symm, fun h => h ▸ decode_encode bytes⟩

theorem encode_injective {bytes other : List UInt8} (h : encode bytes = encode other) :
    bytes = other := by
  have heq := congrArg decode h
  rw [decode_encode, decode_encode] at heq
  exact Option.some.inj heq

/-- No written form holds the mark that separates the parts of a token. -/
theorem dot_not_mem_encode (bytes : List UInt8) : '.' ∉ encode bytes := by
  induction bytes using encode.induct with
  | case1 a b c rest ih =>
      have ha := a.toNat_lt
      have hb := b.toNat_lt
      have hc := c.toNat_lt
      simp only [encode, List.mem_cons, not_or]
      refine ⟨?_, ?_, ?_, ?_, ih⟩ <;>
        exact (encodeSextet_ne_dot _ (by omega)).symm
  | case2 a b =>
      have ha := a.toNat_lt
      have hb := b.toNat_lt
      simp only [encode, List.mem_cons, List.not_mem_nil, or_false, not_or]
      refine ⟨?_, ?_, ?_⟩ <;> exact (encodeSextet_ne_dot _ (by omega)).symm
  | case3 a =>
      have ha := a.toNat_lt
      simp only [encode, List.mem_cons, List.not_mem_nil, or_false, not_or]
      refine ⟨?_, ?_⟩ <;> exact (encodeSextet_ne_dot _ (by omega)).symm
  | case4 => exact List.not_mem_nil

end SessionTokens.Jwt.Base64Url
