import SessionTokens.Text.Split

/-! # Labels beyond ASCII, spelled in ASCII

A label is spelled by its ASCII characters, a hyphen, and digits that say one after the other which
further characters are inserted where. The digits of a number have weights that adapt to the numbers
before it.
-/

namespace SessionTokens.Url.Punycode

open Text

/-- The value of a digit: the letters come before the figures. -/
def digit? (c : Char) : Option Nat :=
  if 'a' ≤ c ∧ c ≤ 'z' then some (c.toNat - 'a'.toNat)
  else if '0' ≤ c ∧ c ≤ '9' then some (c.toNat - '0'.toNat + 26)
  else none

/-- The least digit at a place that does not end a number. -/
def threshold (place bias : Nat) : Nat := max 1 (min 26 (place - bias))

/-- The greatest number that is reached on the way. -/
def greatest : Nat := 4294967295

/-- Takes a number, given what its digits so far amount to, the weight of the next digit and the
place of it. -/
def takeNumber (bias : Nat) : Nat → Nat → Nat → List Char → Option (Nat × List Char)
  | _, _, _, [] => none
  | value, weight, place, c :: rest =>
      match digit? c with
      | none => none
      | some digit =>
          let value := value + digit * weight
          let least := threshold place bias
          if greatest < value then none
          else if digit < least then some (value, rest)
          else if greatest < weight * (36 - least) then none
          else takeNumber bias value (weight * (36 - least)) (place + 36) rest

/-- Scales a distance down until it is small, and counts the steps by 36. -/
def scaleDown (distance : Nat) : Nat × Nat :=
  if 455 < distance then
    let (distance, steps) := scaleDown (distance / 35)
    (distance, steps + 36)
  else (distance, 0)
termination_by distance

/-- The bias after a number: how far apart the last two insertions were, shared among the characters
so far. -/
def adapt (distance count : Nat) (isFirst : Bool) : Nat :=
  let distance := if isFirst then distance / 700 else distance / 2
  let (distance, steps) := scaleDown (distance + distance / count)
  steps + 36 * distance / (distance + 38)

/-- Inserts the characters that digits name into a text, given the number of the last one that was
inserted, the place behind it and the bias. The fuel bounds the number of insertions. -/
def insertAll : Nat → Nat → Nat → Nat → List Char → List Char → Option (List Char)
  | _, _, _, _, text, [] => some text
  | 0, _, _, _, _, _ => none
  | fuel + 1, code, place, bias, text, digits =>
      match takeNumber bias place 1 36 digits with
      | none => none
      | some (value, rest) =>
          let count := text.length + 1
          let code := code + value / count
          let spot := value % count
          if h : code.isValidChar then
            insertAll fuel code (spot + 1) (adapt (value - place) count (place == 0))
              (text.take spot ++ Char.ofNatAux code h :: text.drop spot) rest
          else none

/-- The label that is spelled, if there is one. -/
def decode (spelling : List Char) : Option (List Char) :=
  let (basic, digits) := match splitLast '-' spelling with
    | some ([], _) => ([], spelling)
    | some (basic, digits) => (basic, digits)
    | none => ([], spelling)
  insertAll digits.length 0x80 0 72 basic digits

example : decode "bcher-kva".toList = some "bücher".toList := by decide +kernel

end SessionTokens.Url.Punycode
