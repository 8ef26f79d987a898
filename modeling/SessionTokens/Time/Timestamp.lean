import SessionTokens.Time.Calendar
import SessionTokens.Time.Instant
import SessionTokens.Text.Blank
import SessionTokens.Text.Integer

/-! # Written points of time

A timestamp is a point of time as RFC 3339 writes it. Unlike an instant it can name a leap second,
which follows the last second of a minute. Timestamps are written in UTC, with as many groups of
three fraction digits as needed, and with a sign in front of years that have not four digits.
Reading is more lenient: it takes any offset, blanks between the parts and numbers of one digit.
-/

namespace SessionTokens.Time

open Text

/-- A point of time that may lie within a leap second. -/
structure Timestamp where
  /-- Whole seconds since the start of 1970, leap seconds not counted. -/
  second : Int
  /-- Nanoseconds within the second. -/
  nano : Nat
  /-- Whether the leap second after `second` is meant. -/
  leap : Bool
  nano_lt : nano < 1000000000
  earliest_le : -8334601228800 ≤ second
  le_latest : second ≤ 8210266876799
  leap_last : leap = true → second % 60 = 59
  deriving DecidableEq, Repr

namespace Timestamp

/-- The timestamp of a second and a fraction, if it exists. -/
def make? (second : Int) (nano : Nat) (leap : Bool) : Option Timestamp :=
  if h : nano < 1000000000 ∧ -8334601228800 ≤ second ∧ second ≤ 8210266876799 ∧
      (leap = true → second % 60 = 59) then
    some ⟨second, nano, leap, h.1, h.2.1, h.2.2.1, h.2.2.2⟩
  else none

/-- The timestamp of an instant. -/
def ofInstant (t : Instant) : Timestamp where
  second := t.nanos / 1000000000
  nano := (t.nanos % 1000000000).toNat
  leap := false
  nano_lt := by omega
  earliest_le := by have h := t.earliest_le; omega
  le_latest := by have h := t.le_latest; omega
  leap_last := by intro h; cases h

/-- The instant of a timestamp; a leap second counts as the second after it. -/
def toInstant? (t : Timestamp) : Option Instant :=
  Instant.ofNanos? (t.second * 1000000000 + t.nano + if t.leap then 1000000000 else 0)

/-- A year: four digits, or a sign and at least four digits. -/
def yearText (year : Int) : List Char :=
  if 0 ≤ year ∧ year ≤ 9999 then zeroPadded 4 (natDigits year.toNat)
  else (if year < 0 then '-' else '+') :: zeroPadded 4 (natDigits year.natAbs)

/-- A number of two digits. -/
def twoDigits (n : Nat) : List Char := zeroPadded 2 (natDigits n)

/-- The fraction of a second: none, three, six or nine digits. -/
def fractionText (nano : Nat) : List Char :=
  if nano = 0 then []
  else if nano % 1000000 = 0 then '.' :: zeroPadded 3 (natDigits (nano / 1000000))
  else if nano % 1000 = 0 then '.' :: zeroPadded 6 (natDigits (nano / 1000))
  else '.' :: zeroPadded 9 (natDigits nano)

/-- The written form of a timestamp. -/
def write (t : Timestamp) : List Char :=
  let date := Date.ofDays (t.second / 86400)
  let ofDay := (t.second % 86400).toNat
  let second := ofDay % 60 + if t.leap then 1 else 0
  yearText date.year ++ '-' :: twoDigits date.month ++ '-' :: twoDigits date.day ++
    'T' :: twoDigits (ofDay / 3600) ++ ':' :: twoDigits (ofDay / 60 % 60) ++
    ':' :: twoDigits second ++ fractionText t.nano ++ ['Z']

/-- Reads one to `limit` digits. -/
def scanDigits (limit : Nat) (text : List Char) : Option (List Char × List Char) :=
  let digits := (text.take limit).takeWhile isDigit
  if digits.isEmpty then none else some (digits, text.drop digits.length)

/-- Reads a number of one to `limit` digits after blanks. -/
def scanNumber (limit : Nat) (text : List Char) : Option (Nat × List Char) :=
  (scanDigits limit (trimStart text)).map fun (digits, rest) => (decimalValue digits, rest)

/-- Reads a mark after blanks. -/
def scanMark (mark : Char) (text : List Char) : Option (List Char) :=
  match trimStart text with
  | c :: rest => if c = mark then some rest else none
  | [] => none

/-- Reads a year: at most four digits, or a sign and any number of digits. -/
def scanYear (text : List Char) : Option (Int × List Char) :=
  match trimStart text with
  | '-' :: rest =>
      (scanDigits rest.length rest).map fun (digits, rest) => (-(decimalValue digits : Int), rest)
  | '+' :: rest =>
      (scanDigits rest.length rest).map fun (digits, rest) => ((decimalValue digits : Int), rest)
  | rest => (scanDigits 4 rest).map fun (digits, rest) => ((decimalValue digits : Int), rest)

/-- Reads a date. -/
def scanDate (text : List Char) : Option (Date × List Char) := do
  let (year, text) ← scanYear text
  let text ← scanMark '-' text
  let (month, text) ← scanNumber 2 text
  let text ← scanMark '-' text
  let (day, text) ← scanNumber 2 text
  some (⟨year, month, day⟩, text)

/-- Reads what separates the date from the time. -/
def scanSeparator : List Char → Option (List Char)
  | c :: rest => if c = 'T' ∨ c = 't' ∨ isBlank c = true then some rest else none
  | [] => none

/-- Reads the fraction of a second, of which nine digits count. -/
def scanFraction (text : List Char) : Option (Nat × List Char) :=
  match text with
  | '.' :: rest =>
      (scanDigits 9 rest).map fun (digits, rest) =>
        (decimalValue digits * Nat.pow 10 (9 - digits.length), rest.dropWhile isDigit)
  | _ => some (0, text)

/-- A time of day as it is written. -/
structure TimeOfDay where
  hour : Nat
  minute : Nat
  second : Nat
  nano : Nat

/-- Reads a time of day. -/
def scanTime (text : List Char) : Option (TimeOfDay × List Char) := do
  let (hour, text) ← scanNumber 2 text
  let text ← scanMark ':' text
  let (minute, text) ← scanNumber 2 text
  let text ← scanMark ':' text
  let (second, text) ← scanNumber 2 text
  let (nano, text) ← scanFraction text
  some (⟨hour, minute, second, nano⟩, text)

/-- Reads two digits. -/
def scanTwoDigits : List Char → Option (Nat × List Char)
  | a :: b :: rest => do
      let tens ← digitValue? a
      let ones ← digitValue? b
      some (tens * 10 + ones, rest)
  | _ => none

/-- Reads an offset from UTC, in seconds: `Z`, `UTC`, or a sign, hours and minutes. -/
def scanOffset (text : List Char) : Option (Int × List Char) :=
  match text with
  | 'Z' :: rest => some (0, rest)
  | 'z' :: rest => some (0, rest)
  | c :: rest =>
      if (text.take 3).map Char.toUpper == ['U', 'T', 'C'] then some (0, text.drop 3)
      else if c = '+' ∨ c = '-' ∨ c = '\u2212' then do
        let (hours, rest) ← scanTwoDigits rest
        let (minutes, rest) ←
          scanTwoDigits (rest.dropWhile fun c => c == ':' || isBlank c)
        if 59 < minutes then none
        else
          let seconds : Int := hours * 3600 + minutes * 60
          some (if c = '+' then seconds else -seconds, rest)
      else none
  | [] => none

/-- The timestamp of a local date, time and offset, if all of them exist. -/
def ofLocal? (date : Date) (time : TimeOfDay) (offset : Int) : Option Timestamp :=
  if date.isValid && decide (-262143 ≤ date.year) && decide (date.year ≤ 262142) &&
      decide (time.hour < 24) && decide (time.minute < 60) && decide (time.second ≤ 60) &&
      decide (-86400 < offset) && decide (offset < 86400) then
    let leap := decide (time.second = 60)
    let second : Nat := if leap then 59 else time.second
    make? (date.toDays * 86400 + (time.hour * 3600 + time.minute * 60 + second : Nat) - offset)
      time.nano leap
  else none

/-- Reads a written point of time. -/
def read (text : List Char) : Option Timestamp := do
  let (date, text) ← scanDate text
  let text ← scanSeparator text
  let (time, text) ← scanTime text
  let (offset, text) ← scanOffset (trimStart text)
  if (trimStart text).isEmpty then ofLocal? date time offset else none

end Timestamp

end SessionTokens.Time
