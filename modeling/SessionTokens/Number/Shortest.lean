import SessionTokens.Number.Binary64

/-! # The shortest decimal text of a floating-point number

A number is written with the fewest decimal digits that are read back as the same number, and of
those with the digits nearest to it. The digits are placed around the point; there is never an
exponent.
-/

namespace SessionTokens.Number

open Text

/-- A natural number times a power of ten. -/
structure Decimal where
  digits : Nat
  power : Int
  deriving DecidableEq, Repr

/-- How many more zeros than one a quotient below one has behind its point, within a bound. -/
def leadingZeros : Nat → Nat → Nat → Nat
  | 0, _, _ => 0
  | bound + 1, dividend, divisor =>
      if divisor ≤ dividend * 10 then 0 else 1 + leadingZeros bound (dividend * 10) divisor

/-- The least power of ten above a quotient. -/
def powerAbove (dividend divisor : Nat) : Int :=
  if divisor ≤ dividend then (natDigits (dividend / divisor)).length
  else -(leadingZeros 400 dividend divisor : Int)

/-- The numbers that are rounded to one floating-point number, as multiples of a common unit: the
number itself, the ends of the interval and whether the ends belong to it. -/
structure Neighbourhood where
  low : Nat
  value : Nat
  high : Nat
  /-- How many units make one. -/
  unit : Nat
  closed : Bool
  deriving Repr

namespace Neighbourhood

/-- The neighbourhood of a significand times a power of two. Below a power of two the gap is half as
wide. -/
def ofFinite (significand : Nat) (exponent : Int) : Neighbourhood :=
  let scale := Nat.pow 2 (exponent - 2).toNat
  let gap :=
    if significand = Binary64.leastFull ∧ Binary64.leastExponent < exponent then 1 else 2
  { low := (4 * significand - gap) * scale
    value := 4 * significand * scale
    high := (4 * significand + 2) * scale
    unit := Nat.pow 2 (2 - exponent).toNat
    closed := significand % 2 = 0 }

/-- Whether a decimal number lies in the neighbourhood. -/
def contains (n : Neighbourhood) (d : Decimal) : Bool :=
  let point := d.digits * Nat.pow 10 d.power.toNat * n.unit
  let scale := Nat.pow 10 (-d.power).toNat
  if n.closed then decide (n.low * scale ≤ point) && decide (point ≤ n.high * scale)
  else decide (n.low * scale < point) && decide (point < n.high * scale)

/-- Of the two decimal numbers around the value with a number of digits, the nearer one that lies in
the neighbourhood. -/
def withDigits? (n : Neighbourhood) (count : Nat) : Option Decimal :=
  let power := powerAbove n.value n.unit - count
  let dividend := n.value * Nat.pow 10 (-power).toNat
  let divisor := n.unit * Nat.pow 10 power.toNat
  let below : Decimal := ⟨dividend / divisor, power⟩
  let above : Decimal := ⟨dividend / divisor + 1, power⟩
  match n.contains below, n.contains above with
  | true, true => if 2 * (dividend % divisor) < divisor then some below else some above
  | true, false => some below
  | false, true => some above
  | false, false => none

/-- The nearest of the shortest decimal numbers in the neighbourhood. Seventeen digits always
suffice. -/
def shortest (n : Neighbourhood) : Decimal :=
  ((List.range' 1 17).findSome? n.withDigits?).getD ⟨n.value, 0⟩

end Neighbourhood

/-- The digits of a natural number without the zeros at their end. -/
def significantDigits (digits : Nat) : List Char :=
  ((natDigits digits).reverse.dropWhile (· == '0')).reverse

/-- The text of a decimal number without an exponent. -/
def Decimal.toText (d : Decimal) : List Char :=
  let digits := significantDigits d.digits
  let point : Int := d.power + (natDigits d.digits).length
  if point ≤ 0 then '0' :: '.' :: List.replicate (-point).toNat '0' ++ digits
  else if digits.length ≤ point.toNat then
    digits ++ List.replicate (point.toNat - digits.length) '0'
  else digits.take point.toNat ++ '.' :: digits.drop point.toNat

/-- The text of a floating-point number. -/
def Binary64.toText : Binary64 → List Char
  | .nan => ['N', 'a', 'N']
  | .infinite negative => (if negative then ['-'] else []) ++ ['i', 'n', 'f']
  | .finite negative significand exponent =>
      (if negative then ['-'] else []) ++
        if significand = 0 then ['0']
        else (Neighbourhood.ofFinite significand exponent).shortest.toText

end SessionTokens.Number
