import SessionTokens.Text.Integer

/-! # 64-bit floating-point numbers

A finite number is a significand of at most 53 bits times a power of two. A decimal number is
rounded to the nearest such number, and of two to the one with an even significand. All of it is
exact arithmetic on natural numbers.
-/

namespace SessionTokens.Number

open Text

/-- A 64-bit floating-point number. A finite one is its significand times two to its exponent. -/
inductive Binary64 where
  | nan
  | infinite (negative : Bool)
  | finite (negative : Bool) (significand : Nat) (exponent : Int)
  deriving DecidableEq, Repr

/-- The quotient that is nearest, and of two such the even one. -/
def nearestEven (dividend divisor : Nat) : Nat :=
  let quotient := dividend / divisor
  let rest := dividend % divisor
  if 2 * rest < divisor then quotient
  else if divisor < 2 * rest then quotient + 1
  else quotient + quotient % 2

/-- The quotient that is nearest, and of two such the greater one. -/
def nearestUp (dividend divisor : Nat) : Nat := (2 * dividend + divisor) / (2 * divisor)

namespace Binary64

/-- The least significand of 53 bits. -/
def leastFull : Nat := 4503599627370496

/-- The exponent of the smallest numbers. -/
def leastExponent : Int := -1074

/-- The exponent of the greatest numbers. -/
def greatestExponent : Int := 971

/-- Zero. -/
def zero (negative : Bool) : Binary64 := .finite negative 0 leastExponent

/-- A significand with its exponent, kept below 53 bits and infinite beyond the greatest number. -/
def normal (negative : Bool) (significand : Nat) (exponent : Int) : Binary64 :=
  let (significand, exponent) :=
    if significand = 2 * leastFull then (leastFull, exponent + 1) else (significand, exponent)
  if greatestExponent < exponent then .infinite negative else .finite negative significand exponent

/-- The number nearest to a quotient of natural numbers. -/
def ofQuotient (negative : Bool) (dividend divisor : Nat) : Binary64 :=
  if dividend = 0 then zero negative
  else
    let scaled (exponent : Int) : Nat × Nat :=
      (dividend * Nat.pow 2 (-exponent).toNat, divisor * Nat.pow 2 exponent.toNat)
    let guess := max ((Nat.log2 dividend : Int) - Nat.log2 divisor - 52) leastExponent
    let (above, below) := scaled guess
    let exponent := if above / below < leastFull ∧ leastExponent < guess then guess - 1 else guess
    let (above, below) := scaled exponent
    normal negative (nearestEven above below) exponent

/-- The number nearest to a natural number times a power of ten. -/
def ofDecimal (negative : Bool) (digits : Nat) (power : Int) : Binary64 :=
  let magnitude := power + (natDigits digits).length
  if digits = 0 ∨ magnitude < -323 then zero negative
  else if 309 < magnitude then .infinite negative
  else ofQuotient negative (digits * Nat.pow 10 power.toNat) (Nat.pow 10 (-power).toNat)

/-- The power of ten as it is held, which is a natural number. -/
def powerOfTen (power : Nat) : Nat :=
  match ofDecimal false 1 power with
  | .finite _ significand exponent =>
      significand * Nat.pow 2 exponent.toNat / Nat.pow 2 (-exponent).toNat
  | _ => Nat.pow 10 power

/-- The number nearest to the product with a power of ten. -/
def timesTen (power : Nat) : Binary64 → Binary64
  | .finite negative significand exponent =>
      ofQuotient negative (significand * powerOfTen power * Nat.pow 2 exponent.toNat)
        (Nat.pow 2 (-exponent).toNat)
  | x => x

/-- The number nearest to the quotient by a power of ten. -/
def overTen (power : Nat) : Binary64 → Binary64
  | .finite negative significand exponent =>
      ofQuotient negative (significand * Nat.pow 2 exponent.toNat)
        (powerOfTen power * Nat.pow 2 (-exponent).toNat)
  | x => x

/-- A number as a multiple of the smallest one; infinity is one beyond the greatest. -/
def multiple? : Binary64 → Option Int
  | .nan => none
  | .infinite negative =>
      let magnitude : Int := Nat.pow 2 2098
      some (if negative then -magnitude else magnitude)
  | .finite negative significand exponent =>
      let magnitude : Int := significand * Nat.pow 2 (exponent - leastExponent).toNat
      some (if negative then -magnitude else magnitude)

/-- Numbers in order, where both zeros are equal and what is no number comes last. -/
def order (a b : Binary64) : Ordering :=
  match a.multiple?, b.multiple? with
  | some a, some b => compare a b
  | some _, none => .lt
  | none, some _ => .gt
  | none, none => .eq

/-- Whether a number is one of the zeros. -/
def isZero : Binary64 → Bool
  | .finite _ significand _ => significand == 0
  | _ => false

/-- The nearest integer, a half going away from zero, held within bounds. What is no number counts
as zero. -/
def toInteger (bounds : IntegerBounds) (x : Binary64) : Int :=
  let held (value : Int) : Int := max bounds.least (min bounds.greatest value)
  match x with
  | .nan => held 0
  | .infinite negative => if negative then bounds.least else bounds.greatest
  | .finite negative significand exponent =>
      let magnitude := nearestUp (significand * Nat.pow 2 exponent.toNat)
        (Nat.pow 2 (-exponent).toNat)
      held (if negative then -(magnitude : Int) else magnitude)

end Binary64

end SessionTokens.Number
