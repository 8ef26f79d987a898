import SessionTokens.Json.Basic
import SessionTokens.Number.Binary64

/-! # Numbers as floating-point numbers

The digits of a number are gathered in a significand of 64 bits; those that it has no room for are
dropped. The significand is then scaled by powers of ten, each held as a floating-point number, and
every step is rounded. A number that becomes too great on the way has no value.
-/

namespace SessionTokens

open Number Text

/-- A significand in the making, and the power of ten that it has to be scaled by. -/
structure Scaled where
  significand : Nat
  power : Int
  deriving DecidableEq, Repr

namespace Scaled

/-- Whether a significand has room for a further digit. -/
def hasRoom (significand digit : Nat) : Bool :=
  decide (significand * 10 + digit < 18446744073709551616)

/-- Gathers the digits before the point. Each digit that is dropped counts in the power. -/
def ofWhole (significand : Nat) : List Nat → Scaled
  | [] => ⟨significand, 0⟩
  | digit :: rest =>
      if hasRoom significand digit then ofWhole (significand * 10 + digit) rest
      else ⟨significand, rest.length + 1⟩

/-- Gathers the digits after the point, up to the first that has no room. -/
def addFraction (scaled : Scaled) : List Nat → Scaled
  | [] => scaled
  | digit :: rest =>
      if hasRoom scaled.significand digit then
        addFraction ⟨scaled.significand * 10 + digit, scaled.power - 1⟩ rest
      else scaled

/-- The greatest power of ten that is held. -/
def greatestPower : Nat := 308

/-- A number divided by a power of ten, in steps of the greatest power that is held. -/
def reduce (x : Binary64) (power : Nat) : Binary64 :=
  if power ≤ greatestPower || x.isZero then x.overTen power
  else reduce (x.overTen greatestPower) (power - greatestPower)
termination_by power
decreasing_by
  have : (greatestPower : Nat) = 308 := rfl
  simp_all
  omega

/-- The floating-point number of a scaled significand, unless it is too great. -/
def toBinary64? (negative : Bool) (scaled : Scaled) : Option Binary64 :=
  let x := Binary64.ofQuotient negative scaled.significand 1
  if scaled.power < 0 || x.isZero then some (reduce x (-scaled.power).toNat)
  else if greatestPower < scaled.power then none
  else
    match x.timesTen scaled.power.toNat with
    | .infinite _ => none
    | x => some x

end Scaled

/-- The floating-point number that is read for a number, unless it is too great. -/
def JsonNumber.toReal? (n : JsonNumber) : Option Binary64 :=
  let whole := (natDigits n.whole).filterMap digitValue?
  let digits := (Scaled.ofWhole 0 whole).addFraction (n.fraction.getD [])
  let power : Int := match n.exponent with
    | none => 0
    | some (true, digits) => -(valueIn 10 digits : Int)
    | some (false, digits) => valueIn 10 digits
  { digits with power := digits.power + power }.toBinary64? n.negative

end SessionTokens
