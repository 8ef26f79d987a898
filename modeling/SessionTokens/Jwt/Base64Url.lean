/-! # Base64 for URLs

Three bytes are four characters of a URL-safe alphabet; there is no padding. Decoding is strict: it
takes no other character and no bits that encoding would not have written, so every sequence of
bytes has one written form.
-/

namespace SessionTokens.Jwt.Base64Url

/-- The character of six bits. -/
def encodeSextet (n : Nat) : Char :=
  if n < 26 then Char.ofNat (65 + n)
  else if n < 52 then Char.ofNat (97 + (n - 26))
  else if n < 62 then Char.ofNat (48 + (n - 52))
  else if n = 62 then '-'
  else '_'

/-- The six bits of a character. -/
def decodeSextet? (c : Char) : Option Nat :=
  let n := c.toNat
  if 65 ≤ n ∧ n ≤ 90 then some (n - 65)
  else if 97 ≤ n ∧ n ≤ 122 then some (n - 97 + 26)
  else if 48 ≤ n ∧ n ≤ 57 then some (n - 48 + 52)
  else if c = '-' then some 62
  else if c = '_' then some 63
  else none

/-- The written form of bytes. -/
def encode : List UInt8 → List Char
  | a :: b :: c :: rest =>
      encodeSextet (a.toNat / 4) :: encodeSextet (a.toNat % 4 * 16 + b.toNat / 16) ::
        encodeSextet (b.toNat % 16 * 4 + c.toNat / 64) :: encodeSextet (c.toNat % 64) ::
        encode rest
  | [a, b] =>
      [encodeSextet (a.toNat / 4), encodeSextet (a.toNat % 4 * 16 + b.toNat / 16),
        encodeSextet (b.toNat % 16 * 4)]
  | [a] => [encodeSextet (a.toNat / 4), encodeSextet (a.toNat % 4 * 16)]
  | [] => []

/-- The bytes of a written form. -/
def decode : List Char → Option (List UInt8)
  | a :: b :: c :: d :: rest =>
      match decodeSextet? a, decodeSextet? b, decodeSextet? c, decodeSextet? d, decode rest with
      | some a, some b, some c, some d, some rest =>
          some (UInt8.ofNat (a * 4 + b / 16) :: UInt8.ofNat (b % 16 * 16 + c / 4) ::
            UInt8.ofNat (c % 4 * 64 + d) :: rest)
      | _, _, _, _, _ => none
  | [a, b, c] =>
      match decodeSextet? a, decodeSextet? b, decodeSextet? c with
      | some a, some b, some c =>
          if c % 4 = 0 then
            some [UInt8.ofNat (a * 4 + b / 16), UInt8.ofNat (b % 16 * 16 + c / 4)]
          else none
      | _, _, _ => none
  | [a, b] =>
      match decodeSextet? a, decodeSextet? b with
      | some a, some b => if b % 16 = 0 then some [UInt8.ofNat (a * 4 + b / 16)] else none
      | _, _ => none
  | [_] => none
  | [] => some []

end SessionTokens.Jwt.Base64Url
