import SessionTokens.Text.Hexadecimal

/-! # The tokens of a settings file

A file is cut into tokens before anything is made of them. Bare words stand for keys, truth values
and parts of numbers and dates alike. Strings are unescaped on the way.
-/

namespace SessionTokens.Toml

open Text

/-- A token. -/
inductive Token where
  /-- A run of blanks and tabs. -/
  | blanks (text : List Char)
  | newline
  | comment
  | equals
  | period
  | comma
  | colon
  | plus
  | leftBrace
  | rightBrace
  | leftBracket
  | rightBracket
  /-- A run of letters, digits, underscores and minus signs. -/
  | word (text : List Char)
  | string (value : List Char) (multiline : Bool)
  deriving DecidableEq, Repr

/-- Whether a character may be part of a bare word. -/
def isWordChar (c : Char) : Bool :=
  c.isAlphanum || c == '-' || c == '_'

/-- Whether a character is a blank within a line. -/
def isLineBlank (c : Char) : Bool := c == ' ' || c == '\t'

/-- Whether a character may stand in a string or a comment as it is. -/
def isPrintable (c : Char) : Bool := c == '\t' || (0x20 ≤ c.toNat && c.toNat != 0x7F)

/-- Whether a character may stand in a comment. -/
def isCommentChar (c : Char) : Bool := c == '\t' || 0x20 ≤ c.toNat

/-- Takes a number of hexadecimal digits that name a character. -/
def takeHex : Nat → Nat → List Char → Option (Char × List Char)
  | 0, code, rest => (charOfCode? code).map (·, rest)
  | _ + 1, _, [] => none
  | count + 1, code, c :: rest =>
      match hexValue? c with
      | none => none
      | some digit => takeHex count (code * 16 + digit) rest

/-- Skips what follows a backslash that joins two lines: the end of the line and all blanks and
lines that are empty. -/
def skipJoin (text : List Char) : Option (List Char) :=
  match text.dropWhile isLineBlank with
  | [] => some []
  | '\n' :: rest => some (rest.dropWhile fun c => isLineBlank c || c == '\n')
  | _ => none

/-- Takes an escape after its backslash: the characters that it stands for. -/
def takeEscape (multiline : Bool) : List Char → Option (List Char × List Char)
  | '"' :: rest => some (['"'], rest)
  | '\\' :: rest => some (['\\'], rest)
  | 'b' :: rest => some (['\x08'], rest)
  | 'f' :: rest => some (['\x0c'], rest)
  | 'n' :: rest => some (['\n'], rest)
  | 'r' :: rest => some (['\r'], rest)
  | 't' :: rest => some (['\t'], rest)
  | 'u' :: rest => (takeHex 4 0 rest).map fun (c, rest) => ([c], rest)
  | 'U' :: rest => (takeHex 8 0 rest).map fun (c, rest) => ([c], rest)
  | c :: rest =>
      if multiline && (isLineBlank c || c == '\n') then (skipJoin (c :: rest)).map ([], ·) else none
  | [] => none

/-- Takes the end of a string, if it is here: a single quote, or three of them, of which a
multi-line string may have two more before them. -/
def takeClosing (quote : Char) (multiline : Bool) (text : List Char) :
    Option (List Char × List Char) :=
  let run := (text.takeWhile (· == quote)).length
  if multiline then
    if 3 ≤ run then
      let extra := min (run - 3) 2
      some (List.replicate extra quote, text.drop (3 + extra))
    else none
  else if 1 ≤ run then some ([], text.drop 1) else none

/-- Takes the contents of a string and its end. The fuel bounds the number of characters. -/
def takeString (quote : Char) (multiline : Bool) : Nat → List Char → Option (List Char × List Char)
  | 0, _ => none
  | fuel + 1, text =>
      match takeClosing quote multiline text with
      | some closing => some closing
      | none =>
          match text with
          | [] => none
          | c :: rest =>
              if c == '\\' && quote == '"' then
                (takeEscape multiline rest).bind fun (written, rest) =>
                  (takeString quote multiline fuel rest).map fun (value, rest) =>
                    (written ++ value, rest)
              else if isPrintable c || (multiline && c == '\n') then
                (takeString quote multiline fuel rest).map fun (value, rest) => (c :: value, rest)
              else none

/-- Takes a string after its first quote. A line end right behind three quotes is no part of it. -/
def takeQuoted (quote : Char) (text : List Char) : Option (Token × List Char) :=
  let multiline := (text.takeWhile (· == quote)).length ≥ 2
  let text := if multiline then text.drop 2 else text
  let text :=
    match text with
    | '\n' :: rest => if multiline then rest else text
    | _ => text
  (takeString quote multiline (text.length + 1) text).map fun (value, rest) =>
    (.string value multiline, rest)

/-- The token of a character that is a token by itself. -/
def mark? (c : Char) : Option Token :=
  if c == '\n' then some .newline
  else if c == '=' then some .equals
  else if c == '.' then some .period
  else if c == ',' then some .comma
  else if c == ':' then some .colon
  else if c == '+' then some .plus
  else if c == '\x7b' then some .leftBrace
  else if c == '\x7d' then some .rightBrace
  else if c == '[' then some .leftBracket
  else if c == ']' then some .rightBracket
  else none

/-- Takes the token at the start of a text. -/
def takeToken : List Char → Option (Token × List Char)
  | [] => none
  | c :: rest =>
      match mark? c with
      | some token => some (token, rest)
      | none =>
          let text := c :: rest
          if isLineBlank c then
            some (.blanks (text.takeWhile isLineBlank), text.dropWhile isLineBlank)
          else if c == '#' then some (.comment, rest.dropWhile isCommentChar)
          else if c == '"' || c == '\'' then takeQuoted c rest
          else if isWordChar c then
            some (.word (text.takeWhile isWordChar), text.dropWhile isWordChar)
          else none

/-- Cuts a text into tokens. The fuel bounds their number. -/
def takeTokens : Nat → List Char → Option (List Token)
  | _, [] => some []
  | 0, _ => none
  | fuel + 1, text =>
      (takeToken text).bind fun (token, rest) => (takeTokens fuel rest).map (token :: ·)

/-- A text in which every line ends in a line feed alone. -/
def foldLineEnds : List Char → List Char
  | '\r' :: '\n' :: rest => '\n' :: foldLineEnds rest
  | c :: rest => c :: foldLineEnds rest
  | [] => []

/-- The tokens of a file, whose text may begin with a byte order mark. -/
def tokens (text : List Char) : Option (List Token) :=
  let text :=
    match text with
    | c :: rest => if c.toNat == 0xFEFF then rest else text
    | [] => []
  let text := foldLineEnds text
  takeTokens text.length text

end SessionTokens.Toml
