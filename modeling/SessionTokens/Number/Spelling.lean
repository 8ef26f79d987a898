import SessionTokens.Number.Binary64
import SessionTokens.Text.Fold

/-! # Reading floating-point numbers

A number is a sign, digits with a point among, before or behind them, and an exponent; or, in any
case, one of the words for infinity and for what is no number.
-/

namespace SessionTokens.Number

open Text

/-- The digits at the start of a text and what follows them. -/
def takeDigits : List Char → List Nat × List Char
  | [] => ([], [])
  | c :: rest =>
      match digitValue? c with
      | none => ([], c :: rest)
      | some digit => let (digits, rest) := takeDigits rest; (digit :: digits, rest)

/-- Takes a sign, if there is one, and tells whether it is a minus. -/
def takeSign : List Char → Bool × List Char
  | '+' :: rest => (false, rest)
  | '-' :: rest => (true, rest)
  | rest => (false, rest)

/-- Reads an exponent that ends the text. -/
def readExponent : List Char → Option Int
  | [] => some 0
  | c :: rest =>
      if foldAscii c = 'e' then
        let (negative, rest) := takeSign rest
        match takeDigits rest with
        | ([], _) => none
        | (digits, []) =>
            let value : Int := valueIn 10 digits
            some (if negative then -value else value)
        | _ => none
      else none

/-- Reads digits, a point and an exponent. There has to be a digit before the exponent. -/
def readDecimal (negative : Bool) (text : List Char) : Option Binary64 :=
  let (whole, rest) := takeDigits text
  let (fraction, rest) :=
    match rest with
    | '.' :: rest => takeDigits rest
    | rest => ([], rest)
  if whole.isEmpty && fraction.isEmpty then none
  else
    (readExponent rest).map fun exponent =>
      .ofDecimal negative (valueIn 10 (whole ++ fraction)) (exponent - fraction.length)

/-- Reads a floating-point number. -/
def readBinary64 (text : List Char) : Option Binary64 :=
  let (negative, magnitude) := takeSign text
  let word := String.ofList (magnitude.map foldAscii)
  if word = "inf" ∨ word = "infinity" then some (.infinite negative)
  else if word = "nan" then some .nan
  else readDecimal negative magnitude

end SessionTokens.Number
