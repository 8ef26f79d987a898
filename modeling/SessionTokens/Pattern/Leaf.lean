import SessionTokens.Text.Blank
import SessionTokens.Text.Hexadecimal

/-! # What a pattern asks of a single place

A pattern is built from leaves: a character, any character, a set of characters, or a condition on
a place between characters. In a spaced pattern, white space and remarks count for nothing.
-/

namespace SessionTokens.Pattern

open Text

/-- A set of characters. A single character is a range from itself to itself. -/
inductive CharSet where
  | empty
  | range (first last : Char)
  /-- A set with a name that is written between colons. -/
  | named (negated : Bool)
  /-- The digits, the white space or the characters of words, as a letter behind a backslash. -/
  | shorthand (negated : Bool)
  | bracketed (negated : Bool) (inside : CharSet)
  /-- Two parts or more. -/
  | union (parts : List CharSet)
  /-- What two sets share, or what only one of them has. -/
  | combined (left right : CharSet)
  deriving Repr

/-- A pattern without parts. -/
inductive Leaf where
  /-- A character, and whether it is written as a byte. -/
  | literal (c : Char) (isByte : Bool)
  | anyCharacter
  | set (members : CharSet)
  /-- The beginning or the end of a line or of the whole text. -/
  | anchor
  | wordBoundary
  deriving Repr

/-- A spaced pattern without the white space and the remarks at its start. A remark goes from a
number sign to the end of the line. -/
def skipRemarks (withinRemark : Bool) : List Char → List Char
  | [] => []
  | c :: rest =>
      if withinRemark then skipRemarks (c != '\n') rest
      else if isBlank c then skipRemarks false rest
      else if c == '#' then skipRemarks true rest
      else c :: rest

/-- A pattern without what counts for nothing at its start. -/
def skip (spaced : Bool) (text : List Char) : List Char :=
  if spaced then skipRemarks false text else text

/-- Takes a number of hexadecimal digits. -/
def takeHexDigits (spaced : Bool) : Nat → Nat → List Char → Option (Nat × List Char)
  | 0, value, rest => some (value, rest)
  | count + 1, value, text =>
      match skip spaced text with
      | [] => none
      | c :: rest =>
          (hexValue? c).bind fun digit => takeHexDigits spaced count (value * 16 + digit) rest

/-- Takes the character that a number of hexadecimal digits stands for. -/
def takeCode (spaced : Bool) (count : Nat) (text : List Char) : Option (Leaf × List Char) :=
  (takeHexDigits spaced count 0 text).bind fun (code, rest) =>
    (charOfCode? code).map fun c => (.literal c (count == 2), rest)

/-- Whether a character stands for itself behind a backslash: every ASCII character does but
letters, digits and the brackets of words. -/
def isEscapable (c : Char) : Bool :=
  c.toNat < 0x80 && !c.isAlphanum && c != '<' && c != '>'

/-- Takes what a backslash begins, from behind it. -/
def takeEscape (spaced : Bool) : List Char → Option (Leaf × List Char)
  | [] => none
  | 'x' :: rest => takeCode spaced 2 rest
  | 'u' :: rest => takeCode spaced 4 rest
  | 'U' :: rest => takeCode spaced 8 rest
  | 'a' :: rest => some (.literal '\x07' false, rest)
  | 'f' :: rest => some (.literal '\x0c' false, rest)
  | 'n' :: rest => some (.literal '\n' false, rest)
  | 'r' :: rest => some (.literal '\r' false, rest)
  | 't' :: rest => some (.literal '\t' false, rest)
  | 'v' :: rest => some (.literal '\x0b' false, rest)
  | c :: rest =>
      if c == 'd' || c == 's' || c == 'w' then some (.set (.shorthand false), rest)
      else if c == 'D' || c == 'S' || c == 'W' then some (.set (.shorthand true), rest)
      else if c == 'A' || c == 'z' then some (.anchor, rest)
      else if c == 'b' || c == 'B' || c == '<' || c == '>' then some (.wordBoundary, rest)
      else if isEscapable c then some (.literal c false, rest)
      else none

mutual

/-- How deeply the parts of a set are nested. -/
def CharSet.depth : CharSet → Nat
  | .bracketed _ inside => inside.depth + 1
  | .union parts => CharSet.greatestDepth parts + 1
  | .combined left right => max left.depth right.depth + 1
  | _ => 0

/-- The greatest depth of some sets. -/
def CharSet.greatestDepth : List CharSet → Nat
  | [] => 0
  | part :: rest => max part.depth (CharSet.greatestDepth rest)

end

end SessionTokens.Pattern
