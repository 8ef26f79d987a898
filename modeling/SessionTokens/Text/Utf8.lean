/-! # UTF-8

A character is one to four bytes. Decoding walks over the bytes with the sequence that is still
open, so that it knows at every fault where the sequence began and how many of its bytes fit.
-/

namespace SessionTokens.Text.Utf8

/-- The bytes of a character, given by its number. -/
def encodeScalar (n : Nat) : List Nat :=
  if n < 0x80 then [n]
  else if n < 0x800 then [0xC0 + n / 64, 0x80 + n % 64]
  else if n < 0x10000 then [0xE0 + n / 4096, 0x80 + n / 64 % 64, 0x80 + n % 64]
  else [0xF0 + n / 262144, 0x80 + n / 4096 % 64, 0x80 + n / 64 % 64, 0x80 + n % 64]

/-- The bytes of a character. -/
def encodeChar (c : Char) : List UInt8 := (encodeScalar c.toNat).map UInt8.ofNat

/-- The bytes of a text. -/
def encode (text : List Char) : List UInt8 := text.flatMap encodeChar

/-- The number of bytes of a text. -/
def size (text : List Char) : Nat := (encode text).length

/-- What follows the first bytes of a text, unless they end within a character. -/
def drop? : Nat → List Char → Option (List Char)
  | 0, text => some text
  | _ + 1, [] => none
  | count + 1, c :: rest =>
      let size := (encodeChar c).length
      if size ≤ count + 1 then drop? (count + 1 - size) rest else none

/-- The first bytes of a text, unless they end within a character. -/
def take? : Nat → List Char → Option (List Char)
  | 0, _ => some []
  | _ + 1, [] => none
  | count + 1, c :: rest =>
      let size := (encodeChar c).length
      if size ≤ count + 1 then (take? (count + 1 - size) rest).map (c :: ·) else none

/-- The bytes of a text from one place to another. -/
def part? (first last : Nat) (text : List Char) : Option (List Char) :=
  (drop? first text).bind (take? (last - first))

/-- A sequence that has begun: its bits so far, how many bytes are still to come, the range in which
the next one has to lie and how many bytes were taken. -/
structure Open where
  bits : Nat
  more : Nat
  low : Nat
  high : Nat
  taken : Nat

/-- What a leading byte begins. -/
inductive Start where
  | char (c : Char)
  | sequence (s : Open)
  | malformed

/-- What a leading byte begins. The ranges of the second byte leave out overlong forms, surrogates
and what lies beyond the last character. -/
def start (byte : UInt8) : Start :=
  let b := byte.toNat
  if b < 0x80 then .char (Char.ofNat b)
  else if b < 0xC2 then .malformed
  else if b < 0xE0 then .sequence ⟨b - 0xC0, 1, 0x80, 0xBF, 1⟩
  else if b = 0xE0 then .sequence ⟨0, 2, 0xA0, 0xBF, 1⟩
  else if b = 0xED then .sequence ⟨13, 2, 0x80, 0x9F, 1⟩
  else if b < 0xF0 then .sequence ⟨b - 0xE0, 2, 0x80, 0xBF, 1⟩
  else if b = 0xF0 then .sequence ⟨0, 3, 0x90, 0xBF, 1⟩
  else if b < 0xF4 then .sequence ⟨b - 0xF0, 3, 0x80, 0xBF, 1⟩
  else if b = 0xF4 then .sequence ⟨4, 3, 0x80, 0x8F, 1⟩
  else .malformed

/-- The sequence after one more byte, if the byte fits. -/
def Open.push? (s : Open) (byte : UInt8) : Option Open :=
  if s.low ≤ byte.toNat ∧ byte.toNat ≤ s.high then
    some ⟨s.bits * 64 + (byte.toNat - 0x80), s.more - 1, 0x80, 0xBF, s.taken + 1⟩
  else none

/-- A fault in bytes: where the faulty sequence begins and, unless the bytes merely end too early,
how many bytes of it are at fault. -/
structure Fault where
  index : Nat
  length : Option Nat
  deriving DecidableEq, Repr

/-- The wording of a fault. -/
def Fault.message (fault : Fault) : String :=
  match fault.length with
  | some n => s!"invalid utf-8 sequence of {n} bytes from index {fault.index}"
  | none => s!"incomplete utf-8 byte sequence from index {fault.index}"

/-- Decodes bytes from an index on, within the sequence that is open there. -/
def decodeFrom (index : Nat) : Option Open → List UInt8 → Except Fault (List Char)
  | none, [] => .ok []
  | some _, [] => .error ⟨index, none⟩
  | none, byte :: rest =>
      match start byte with
      | .char c => (decodeFrom (index + 1) none rest).map (c :: ·)
      | .sequence s => decodeFrom index (some s) rest
      | .malformed => .error ⟨index, some 1⟩
  | some s, byte :: rest =>
      match s.push? byte with
      | none => .error ⟨index, some s.taken⟩
      | some next =>
          if next.more = 0 then
            (decodeFrom (index + next.taken) none rest).map (Char.ofNat next.bits :: ·)
          else decodeFrom index (some next) rest

/-- Decodes bytes, stopping at the first fault. -/
def decode (bytes : List UInt8) : Except Fault (List Char) := decodeFrom 0 none bytes

/-- The character that stands for bytes that are no text. -/
def replacement : Char := Char.ofNat 0xFFFD

/-- Decodes bytes with a replacement character for every faulty sequence. -/
def decodeLossyFrom : Option Open → List UInt8 → List Char
  | none, [] => []
  | some _, [] => [replacement]
  | none, byte :: rest =>
      match start byte with
      | .char c => c :: decodeLossyFrom none rest
      | .sequence s => decodeLossyFrom (some s) rest
      | .malformed => replacement :: decodeLossyFrom none rest
  | some s, byte :: rest =>
      match s.push? byte with
      | some next =>
          if next.more = 0 then Char.ofNat next.bits :: decodeLossyFrom none rest
          else decodeLossyFrom (some next) rest
      | none =>
          match start byte with
          | .char c => replacement :: c :: decodeLossyFrom none rest
          | .sequence s => replacement :: decodeLossyFrom (some s) rest
          | .malformed => replacement :: replacement :: decodeLossyFrom none rest

/-- Decodes bytes with a replacement character for every faulty sequence. -/
def decodeLossy (bytes : List UInt8) : List Char := decodeLossyFrom none bytes

end SessionTokens.Text.Utf8
