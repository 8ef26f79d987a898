/-! # Decimal integers within bounds

An integer text is an optional sign and at least one ASCII digit. Reading goes from left to right
and reports the first problem it meets, so a text with two faults has one definite error.
-/

namespace SessionTokens.Text

/-- A closed range of integers. -/
structure IntegerBounds where
  least : Int
  greatest : Int
  deriving DecidableEq, Repr

namespace IntegerBounds

/-- The integers of 64 signed bits. -/
def signed64 : IntegerBounds := ⟨-9223372036854775808, 9223372036854775807⟩

/-- The integers of 64 unsigned bits. -/
def unsigned64 : IntegerBounds := ⟨0, 18446744073709551615⟩

/-- The integers of 32 unsigned bits. -/
def unsigned32 : IntegerBounds := ⟨0, 4294967295⟩

/-- Whether an integer lies in the range. -/
def contains (bounds : IntegerBounds) (value : Int) : Bool :=
  decide (bounds.least ≤ value) && decide (value ≤ bounds.greatest)

theorem contains_iff {bounds : IntegerBounds} {value : Int} :
    bounds.contains value = true ↔ bounds.least ≤ value ∧ value ≤ bounds.greatest := by
  rw [contains, Bool.and_eq_true, decide_eq_true_iff, decide_eq_true_iff]

end IntegerBounds

/-- Why a text is not an integer of the wanted range. -/
inductive IntegerError where
  | empty
  | invalidDigit
  | tooLarge
  | tooSmall
  deriving DecidableEq, Repr

/-- The wording of an integer error. -/
def IntegerError.message : IntegerError → String
  | .empty => "cannot parse integer from empty string"
  | .invalidDigit => "invalid digit found in string"
  | .tooLarge => "number too large to fit in target type"
  | .tooSmall => "number too small to fit in target type"

/-- The value of an ASCII digit. -/
def digitValue? (c : Char) : Option Nat :=
  if '0' ≤ c ∧ c ≤ '9' then some (c.toNat - '0'.toNat) else none

/-- Whether a character is an ASCII digit. -/
def isDigit (c : Char) : Bool := (digitValue? c).isSome

/-- The number that digits spell in a base, the most significant first. -/
def valueIn (base : Nat) (digits : List Nat) : Nat :=
  digits.foldl (fun value digit => value * base + digit) 0

/-- The number that the digits of a text spell. -/
def decimalValue (text : List Char) : Nat := valueIn 10 (text.filterMap digitValue?)

/-- The ASCII character of a digit below ten. -/
def digitChar (digit : Nat) : Char := Char.ofNat ('0'.toNat + digit)

/-- Appends one more digit to a magnitude that is counted downward when `negative`. -/
def appendDigit (negative : Bool) (value : Int) (digit : Nat) : Int :=
  if negative then value * 10 - digit else value * 10 + digit

/-- Reads the digits that follow `value`, checking the range after every digit. -/
def readDigits (bounds : IntegerBounds) (negative : Bool) (value : Int) :
    List Char → Except IntegerError Int
  | [] => .ok value
  | c :: rest =>
      match digitValue? c with
      | none => .error .invalidDigit
      | some digit =>
          let next := appendDigit negative value digit
          if bounds.greatest < next then .error .tooLarge
          else if next < bounds.least then .error .tooSmall
          else readDigits bounds negative next rest

/-- Reads at least one digit. -/
def readMagnitude (bounds : IntegerBounds) (negative : Bool) :
    List Char → Except IntegerError Int
  | [] => .error .invalidDigit
  | c :: rest => readDigits bounds negative 0 (c :: rest)

/-- Reads an integer text. A minus sign is a digit out of place where no negative value fits. -/
def readInteger (bounds : IntegerBounds) : List Char → Except IntegerError Int
  | [] => .error .empty
  | '+' :: rest => readMagnitude bounds false rest
  | '-' :: rest =>
      if bounds.least < 0 then readMagnitude bounds true rest else .error .invalidDigit
  | c :: rest => readMagnitude bounds false (c :: rest)

/-- The decimal digits of a natural number, most significant first. -/
def natDigits (n : Nat) : List Char :=
  if n < 10 then [digitChar n] else natDigits (n / 10) ++ [digitChar (n % 10)]

/-- The decimal text of an integer, with a minus sign only where it is negative. -/
def intDigits (value : Int) : List Char :=
  if value < 0 then '-' :: natDigits value.natAbs else natDigits value.natAbs

/-- Pads a text on the left with zeros up to a width. -/
def zeroPadded (width : Nat) (text : List Char) : List Char :=
  List.replicate (width - text.length) '0' ++ text

end SessionTokens.Text
