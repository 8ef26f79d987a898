/-! # Hexadecimal digits

Digits are written in lower case and read in either case.
-/

namespace SessionTokens.Text

/-- The lower-case digit of a number below sixteen. -/
def hexChar (n : Nat) : Char :=
  if n < 10 then Char.ofNat ('0'.toNat + n) else Char.ofNat ('a'.toNat + (n - 10))

/-- The value of a hexadecimal digit in either case. -/
def hexValue? (c : Char) : Option Nat :=
  if '0' ≤ c ∧ c ≤ '9' then some (c.toNat - '0'.toNat)
  else if 'a' ≤ c ∧ c ≤ 'f' then some (c.toNat - 'a'.toNat + 10)
  else if 'A' ≤ c ∧ c ≤ 'F' then some (c.toNat - 'A'.toNat + 10)
  else none

/-- The character of a code point, unless it is a surrogate or too great. -/
def charOfCode? (code : Nat) : Option Char :=
  if h : code.isValidChar then some (Char.ofNatAux code h) else none

/-- Bytes as two digits each. -/
def hexOfBytes (bytes : List UInt8) : List Char :=
  bytes.flatMap fun byte => [hexChar (byte.toNat / 16), hexChar (byte.toNat % 16)]

theorem hexValue?_hexChar : ∀ n < 16, hexValue? (hexChar n) = some n := by decide

end SessionTokens.Text
