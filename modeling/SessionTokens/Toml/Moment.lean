import SessionTokens.Text.Integer

/-! # Dates and times in a settings file

A moment is a date, a time of day, or both, and then perhaps an offset. As a setting it is a text:
its written form with a `T` between date and time and without superfluous digits.
-/

namespace SessionTokens.Toml

open Text

/-- Takes one digit. -/
def takeDigit : List Char → Option (Nat × List Char)
  | c :: rest => (digitValue? c).map (·, rest)
  | [] => none

/-- Takes a number of a fixed count of digits. -/
def takeFixed : Nat → Nat → List Char → Option (Nat × List Char)
  | 0, value, text => some (value, text)
  | count + 1, value, text =>
      (takeDigit text).bind fun (digit, rest) => takeFixed count (value * 10 + digit) rest

/-- Takes a character. -/
def takeChar (wanted : Char) : List Char → Option (List Char)
  | c :: rest => if c == wanted then some rest else none
  | [] => none

/-- The written form of a number of a fixed count of digits. -/
def fixedDigits (count value : Nat) : List Char := zeroPadded count (natDigits value)

/-- Takes a date and gives its written form. -/
def takeDate (text : List Char) : Option (List Char × List Char) := do
  let (year, text) ← takeFixed 4 0 text
  let text ← takeChar '-' text
  let (month, text) ← takeFixed 2 0 text
  let text ← takeChar '-' text
  let (day, text) ← takeFixed 2 0 text
  if 1 ≤ month ∧ month ≤ 12 ∧ 1 ≤ day ∧ day ≤ 31 then
    some (fixedDigits 4 year ++ '-' :: fixedDigits 2 month ++ '-' :: fixedDigits 2 day, text)
  else none

/-- The written form of the digits of a second's fraction: at most nine of them, without zeros at
the end. -/
def fractionText (digits : List Char) : List Char :=
  match ((digits.take 9).reverse.dropWhile (· == '0')).reverse with
  | [] => []
  | digits => '.' :: digits

/-- Takes the fraction of a second and gives its written form. -/
def takeFraction : List Char → Option (List Char × List Char)
  | '.' :: text =>
      match text.takeWhile isDigit with
      | [] => none
      | digits => some (fractionText digits, text.drop digits.length)
  | text => some ([], text)

/-- Takes a time of day and gives its written form. -/
def takeTime (text : List Char) : Option (List Char × List Char) := do
  let (hour, text) ← takeFixed 2 0 text
  let text ← takeChar ':' text
  let (minute, text) ← takeFixed 2 0 text
  let text ← takeChar ':' text
  let (second, text) ← takeFixed 2 0 text
  let (fraction, text) ← takeFraction text
  if hour ≤ 24 ∧ minute ≤ 59 ∧ second ≤ 59 then
    some (fixedDigits 2 hour ++ ':' :: fixedDigits 2 minute ++ ':' :: fixedDigits 2 second ++
      fraction, text)
  else none

/-- Takes an offset of hours and minutes after its sign. An offset of no hours is written as
positive. -/
def takeHours (negative : Bool) (text : List Char) : Option (List Char × List Char) := do
  let (hours, text) ← takeFixed 2 0 text
  let text ← takeChar ':' text
  let (minutes, text) ← takeFixed 2 0 text
  let sign := if negative && hours != 0 then '-' else '+'
  some (sign :: fixedDigits 2 hours ++ ':' :: fixedDigits 2 minutes, text)

/-- Takes an offset, if there is one, and gives its written form. -/
def takeOffset : List Char → Option (List Char × List Char)
  | [] => some ([], [])
  | c :: rest =>
      if c == 'Z' || c == 'z' then some (['Z'], rest)
      else if c == '+' then takeHours false rest
      else if c == '-' then takeHours true rest
      else none

/-- Takes what follows a date: a time with an offset, if there is a time. -/
def takeTimeOfDate : List Char → Option (List Char × List Char)
  | c :: rest =>
      if c == 'T' || c == 't' || c == ' ' then do
        let (time, rest) ← takeTime rest
        let (offset, rest) ← takeOffset rest
        some ('T' :: time ++ offset, rest)
      else some ([], c :: rest)
  | [] => some ([], [])

/-- The written form of a moment. -/
def momentText? (text : List Char) : Option (List Char) := do
  let (written, rest) ←
    if text[2]? == some ':' then takeTime text
    else do
      let (date, rest) ← takeDate text
      let (time, rest) ← takeTimeOfDate rest
      some (date ++ time, rest)
  if rest.isEmpty then some written else none

end SessionTokens.Toml
