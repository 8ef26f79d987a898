import SessionTokens.Number.Spelling
import SessionTokens.Text.Hexadecimal

/-! # Digits of numbers in a settings file

Digits may be grouped by single underscores, which have to stand between digits. A decimal number
does not begin with superfluous zeros.
-/

namespace SessionTokens.Toml

open Number Text

/-- The value of a digit in a base of at most sixteen. -/
def digitIn? (base : Nat) (c : Char) : Option Nat := (hexValue? c).filter (· < base)

/-- Takes digits and underscores. `started` says that there was a digit before, `grouping` that the
last character was an underscore, and `lone` that no digit may follow. -/
def takeGrouped (base : Nat) (lone : Bool) :
    Bool → Bool → List Char → Option (List Nat × List Char)
  | started, grouping, [] => if started && !grouping then some ([], []) else none
  | started, grouping, c :: rest =>
      match digitIn? base c with
      | some digit =>
          if lone then none
          else
            (takeGrouped base lone true false rest).map fun (digits, rest) => (digit :: digits, rest)
      | none =>
          if !started || grouping then none
          else if c == '_' then takeGrouped base lone true true rest
          else some ([], c :: rest)

/-- Takes the digits of a number in a base. Unless `zeros` allows it, a zero at their start has to
be alone. -/
def takeNumeral (base : Nat) (zeros : Bool) (text : List Char) : Option (List Nat × List Char) :=
  match text with
  | '0' :: rest =>
      (takeGrouped base (!zeros) true false rest).map fun (digits, rest) => (0 :: digits, rest)
  | _ => takeGrouped base false false false text

/-- An integer of 64 signed bits. -/
def integerOf? (negative : Bool) (magnitude : Nat) : Option Int :=
  let value : Int := if negative then -magnitude else magnitude
  if IntegerBounds.signed64.contains value then some value else none

/-- Reads an integer in a base other than ten. -/
def readInBase (base : Nat) (text : List Char) : Option Int :=
  match takeNumeral base true text with
  | some (digits, []) => integerOf? false (valueIn base digits)
  | _ => none

/-- Reads a decimal integer. -/
def readDecimalInteger (text : List Char) : Option Int :=
  let (negative, text) := takeSign text
  match takeNumeral 10 false text with
  | some (digits, []) => integerOf? negative (valueIn 10 digits)
  | _ => none

/-- The finite number of a sign, the digits before and after the point and an exponent. -/
def realOf? (negative : Bool) (whole fraction : List Nat) (exponent : Int) : Option Binary64 :=
  match Binary64.ofDecimal negative (valueIn 10 (whole ++ fraction)) (exponent - fraction.length) with
  | .finite negative significand exponent => some (.finite negative significand exponent)
  | _ => none

end SessionTokens.Toml
