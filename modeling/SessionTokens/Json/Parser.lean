import SessionTokens.Json.Basic
import SessionTokens.Text.Hexadecimal
import SessionTokens.Text.Utf8

/-! # Reading JSON from bytes

The grammar is that of RFC 8259. Bytes of a string are taken as they come; only when the string is
complete are its escapes paired and its bytes decoded, and a string for which that fails is still a
string.
-/

namespace SessionTokens.Json

open Text

/-- Whether a byte is blank between the parts of a value. -/
def isBlankByte (b : UInt8) : Bool := b == 0x20 || b == 0x09 || b == 0x0A || b == 0x0D

/-- The bytes after blanks. -/
def skipBlanks (bytes : List UInt8) : List UInt8 := bytes.dropWhile isBlankByte

/-- The value of a decimal digit. -/
def decimal? (b : UInt8) : Option Nat := digitValue? (Char.ofNat b.toNat)

/-- The value of a hexadecimal digit. -/
def hexadecimal? (b : UInt8) : Option Nat := hexValue? (Char.ofNat b.toNat)

/-- Takes the decimal digits at the start of bytes. -/
def scanDecimals : List UInt8 → List Nat × List UInt8
  | [] => ([], [])
  | b :: rest =>
      match decimal? b with
      | none => ([], b :: rest)
      | some digit => let (digits, rest) := scanDecimals rest; (digit :: digits, rest)

/-- Takes the digits before the point: a zero, or digits that do not start with one. -/
def scanWhole : List UInt8 → Option (Nat × List UInt8)
  | 0x30 :: rest => some (0, rest)
  | bytes =>
      match scanDecimals bytes with
      | ([], _) => none
      | (digits, rest) => some (valueIn 10 digits, rest)

/-- Takes a point and the digits after it, if there is a point. -/
def scanFraction : List UInt8 → Option (Option (List Nat) × List UInt8)
  | 0x2E :: rest =>
      match scanDecimals rest with
      | ([], _) => none
      | (digits, rest) => some (some digits, rest)
  | bytes => some (none, bytes)

/-- Takes at least one exponent digit. -/
def scanExponentDigits (negative : Bool) (bytes : List UInt8) :
    Option (Option (Bool × List Nat) × List UInt8) :=
  match scanDecimals bytes with
  | ([], _) => none
  | (digits, rest) => some (some (negative, digits), rest)

/-- Takes an exponent, if there is one. -/
def scanExponent : List UInt8 → Option (Option (Bool × List Nat) × List UInt8)
  | b :: rest =>
      if b = 0x65 ∨ b = 0x45 then
        match rest with
        | 0x2B :: rest => scanExponentDigits false rest
        | 0x2D :: rest => scanExponentDigits true rest
        | rest => scanExponentDigits false rest
      else some (none, b :: rest)
  | [] => some (none, [])

/-- Takes a number after its sign. -/
def scanNumber (negative : Bool) (bytes : List UInt8) : Option (JsonNumber × List UInt8) := do
  let (whole, bytes) ← scanWhole bytes
  let (fraction, bytes) ← scanFraction bytes
  let (exponent, bytes) ← scanExponent bytes
  some (⟨negative, whole, fraction, exponent⟩, bytes)

/-- A piece of a string: a byte, or the code unit that an escape names. -/
inductive StringPiece where
  | byte (b : UInt8)
  | escaped (unit : Nat)
  deriving DecidableEq, Repr

/-- The code unit of a two-character escape. -/
def shortEscape? (b : UInt8) : Option Nat :=
  if b = 0x22 then some 0x22
  else if b = 0x5C then some 0x5C
  else if b = 0x2F then some 0x2F
  else if b = 0x62 then some 0x08
  else if b = 0x66 then some 0x0C
  else if b = 0x6E then some 0x0A
  else if b = 0x72 then some 0x0D
  else if b = 0x74 then some 0x09
  else none

/-- The code unit that four hexadecimal digits name. -/
def unitOfHex? (a b c d : UInt8) : Option Nat := do
  some (valueIn 16 [← hexadecimal? a, ← hexadecimal? b, ← hexadecimal? c, ← hexadecimal? d])

/-- Takes the pieces of a string up to its closing quote. -/
def scanPieces : List UInt8 → Option (List StringPiece × List UInt8)
  | [] => none
  | 0x22 :: rest => some ([], rest)
  | 0x5C :: 0x75 :: a :: b :: c :: d :: rest =>
      match unitOfHex? a b c d with
      | none => none
      | some unit =>
          (scanPieces rest).map fun (pieces, rest) => (.escaped unit :: pieces, rest)
  | 0x5C :: b :: rest =>
      match shortEscape? b with
      | none => none
      | some unit =>
          (scanPieces rest).map fun (pieces, rest) => (.escaped unit :: pieces, rest)
  | b :: rest =>
      if b < 0x20 then none
      else (scanPieces rest).map fun (pieces, rest) => (.byte b :: pieces, rest)

/-- Whether a code unit is the first half of a surrogate pair. -/
def isHighSurrogate (unit : Nat) : Bool := decide (0xD800 ≤ unit) && decide (unit < 0xDC00)

/-- Whether a code unit is the second half of a surrogate pair. -/
def isLowSurrogate (unit : Nat) : Bool := decide (0xDC00 ≤ unit) && decide (unit < 0xE000)

/-- The bytes of a character, given by its number. -/
def scalarBytes (n : Nat) : List UInt8 := (Utf8.encodeScalar n).map UInt8.ofNat

/-- The bytes of a string whose surrogates are paired. -/
def pairedBytes? : List StringPiece → Option (List UInt8)
  | [] => some []
  | .byte b :: rest => (pairedBytes? rest).map (b :: ·)
  | .escaped high :: .escaped low :: rest =>
      if isHighSurrogate high then
        if isLowSurrogate low then
          (pairedBytes? rest).map
            (scalarBytes (0x10000 + (high - 0xD800) * 0x400 + (low - 0xDC00)) ++ ·)
        else none
      else if isLowSurrogate high then none
      else (pairedBytes? (.escaped low :: rest)).map (scalarBytes high ++ ·)
  | .escaped unit :: rest =>
      if isHighSurrogate unit || isLowSurrogate unit then none
      else (pairedBytes? rest).map (scalarBytes unit ++ ·)

/-- Whether a string ends in the first half of a surrogate pair, while all surrogates before that
are paired. -/
def breaksOff (pieces : List StringPiece) : Bool :=
  match pieces.getLast? with
  | some (.escaped unit) => isHighSurrogate unit && (pairedBytes? pieces.dropLast).isSome
  | _ => false

/-- The contents of a string. -/
def contents (pieces : List StringPiece) : JsonText :=
  match pairedBytes? pieces with
  | none => .unpairedSurrogate (breaksOff pieces)
  | some bytes =>
      match Utf8.decode bytes with
      | .ok text => .text (String.ofList text)
      | .error _ => .notUtf8

/-- Takes a word. -/
def scanWord (word : List UInt8) (value : Json) (bytes : List UInt8) :
    Option (Json × List UInt8) :=
  if word.isPrefixOf bytes then some (value, bytes.drop word.length) else none

/-- Takes a value that is no array or object, from its first byte on. -/
def scanScalar : List UInt8 → Option (Json × List UInt8)
  | 0x22 :: rest => (scanPieces rest).map fun (pieces, rest) => (.string (contents pieces), rest)
  | 0x2D :: rest => (scanNumber true rest).map fun (n, rest) => (.number n, rest)
  | 0x6E :: rest => scanWord [0x75, 0x6C, 0x6C] .null rest
  | 0x74 :: rest => scanWord [0x72, 0x75, 0x65] (.bool true) rest
  | 0x66 :: rest => scanWord [0x61, 0x6C, 0x73, 0x65] (.bool false) rest
  | bytes => (scanNumber false bytes).map fun (n, rest) => (.number n, rest)

/-- Takes the name of a member and the colon after it. -/
def scanName (bytes : List UInt8) : Option (JsonText × List UInt8) :=
  match skipBlanks bytes with
  | 0x22 :: rest =>
      match scanPieces rest with
      | none => none
      | some (pieces, rest) =>
          match skipBlanks rest with
          | 0x3A :: rest => some (contents pieces, rest)
          | _ => none
  | _ => none

mutual

/-- Takes a value after blanks. The fuel bounds how many arrays, objects and parts of them may
follow one another. -/
def scanValue : Nat → List UInt8 → Option (Json × List UInt8)
  | 0, _ => none
  | fuel + 1, bytes =>
      match skipBlanks bytes with
      | 0x5B :: rest =>
          match skipBlanks rest with
          | 0x5D :: rest => some (.array [], rest)
          | rest => (scanItems fuel rest).map fun (items, rest) => (.array items, rest)
      | 0x7B :: rest =>
          match skipBlanks rest with
          | 0x7D :: rest => some (.object [], rest)
          | rest => (scanMembers fuel rest).map fun (members, rest) => (.object members, rest)
      | bytes => scanScalar bytes

/-- Takes the items of an array that has some, up to its closing bracket. -/
def scanItems : Nat → List UInt8 → Option (List Json × List UInt8)
  | 0, _ => none
  | fuel + 1, bytes =>
      match scanValue fuel bytes with
      | none => none
      | some (item, rest) =>
          match skipBlanks rest with
          | 0x5D :: rest => some ([item], rest)
          | 0x2C :: rest =>
              (scanItems fuel rest).map fun (items, rest) => (item :: items, rest)
          | _ => none

/-- Takes the members of an object that has some, up to its closing brace. -/
def scanMembers : Nat → List UInt8 → Option (List (JsonText × Json) × List UInt8)
  | 0, _ => none
  | fuel + 1, bytes =>
      match scanName bytes with
      | none => none
      | some (name, rest) =>
          match scanValue fuel rest with
          | none => none
          | some (value, rest) =>
              match skipBlanks rest with
              | 0x7D :: rest => some ([(name, value)], rest)
              | 0x2C :: rest =>
                  (scanMembers fuel rest).map fun (members, rest) =>
                    ((name, value) :: members, rest)
              | _ => none

end

/-- Reads bytes that hold one value and blanks around it. -/
def parse (bytes : List UInt8) : Option Json :=
  match scanValue (2 * bytes.length + 2) bytes with
  | none => none
  | some (value, rest) => if (skipBlanks rest).isEmpty then some value else none

end SessionTokens.Json
