import SessionTokens.Json.Basic
import SessionTokens.Text.Hexadecimal

/-! # Writing JSON

Values are written without blanks. In strings only the quote, the backslash and the control
characters are escaped, the latter by their short escape where there is one.
-/

namespace SessionTokens.Json

open Text

/-- The written form of a character within a string. -/
def escape (c : Char) : List Char :=
  if c = '"' then ['\\', '"']
  else if c = '\\' then ['\\', '\\']
  else if c = '\x08' then ['\\', 'b']
  else if c = '\t' then ['\\', 't']
  else if c = '\n' then ['\\', 'n']
  else if c = '\x0c' then ['\\', 'f']
  else if c = '\r' then ['\\', 'r']
  else if c.toNat < 0x20 then
    ['\\', 'u', '0', '0', hexChar (c.toNat / 16), hexChar (c.toNat % 16)]
  else [c]

/-- The written form of a text. -/
def quote (text : String) : List Char := '"' :: text.toList.flatMap escape ++ ['"']

/-- The written form of a string; one that is no text is written as the empty string. -/
def quoteText : JsonText → List Char
  | .text content => quote content
  | _ => quote ""

/-- The written form of decimal digits. -/
def digitsText (digits : List Nat) : List Char := digits.map digitChar

/-- The written form of a number. -/
def numberText (n : JsonNumber) : List Char :=
  (if n.negative then ['-'] else []) ++ natDigits n.whole ++
    (match n.fraction with
      | none => []
      | some digits => '.' :: digitsText digits) ++
    (match n.exponent with
      | none => []
      | some (negative, digits) =>
          'e' :: (if negative then ['-'] else []) ++ digitsText digits)

mutual

/-- The written form of a value. -/
def render : Json → List Char
  | .null => ['n', 'u', 'l', 'l']
  | .bool true => ['t', 'r', 'u', 'e']
  | .bool false => ['f', 'a', 'l', 's', 'e']
  | .number n => numberText n
  | .string content => quoteText content
  | .array items => '[' :: renderItems items ++ [']']
  | .object members => '\x7b' :: renderMembers members ++ ['\x7d']

/-- The written form of the items of an array. -/
def renderItems : List Json → List Char
  | [] => []
  | [item] => render item
  | item :: rest => render item ++ ',' :: renderItems rest

/-- The written form of the members of an object. -/
def renderMembers : List (JsonText × Json) → List Char
  | [] => []
  | [(name, value)] => quoteText name ++ ':' :: render value
  | (name, value) :: rest => quoteText name ++ ':' :: render value ++ ',' :: renderMembers rest

end

end SessionTokens.Json
