import SessionTokens.Json.Parser

/-! # What a JSON text is

The grammar says which bytes spell which value, without a word about how they are read. Blanks may
stand around values and marks and nowhere else. The bytes of a string are taken as they come; what
they mean is decided once the string is complete.
-/

namespace SessionTokens.Json

/-- Blanks only. -/
def Blanks (bytes : List UInt8) : Prop := ∀ b ∈ bytes, isBlankByte b = true

namespace Grammar

/-- Decimal digits, given by their values. -/
inductive Decimals : List Nat → List UInt8 → Prop
  | nil : Decimals [] []
  | cons {b : UInt8} {digit : Nat} {digits : List Nat} {bytes : List UInt8} :
      decimal? b = some digit → Decimals digits bytes → Decimals (digit :: digits) (b :: bytes)

/-- The digits before the point: a zero, or digits that do not begin with one. -/
inductive Whole : Nat → List UInt8 → Prop
  | zero : Whole 0 [0x30]
  | digits {digit : Nat} {digits : List Nat} {bytes : List UInt8} :
      Decimals (digit :: digits) bytes → digit ≠ 0 →
        Whole (Text.valueIn 10 (digit :: digits)) bytes

/-- A point with digits after it, or nothing. -/
inductive Fraction : Option (List Nat) → List UInt8 → Prop
  | absent : Fraction none []
  | present {digits : List Nat} {bytes : List UInt8} :
      Decimals digits bytes → digits ≠ [] → Fraction (some digits) (0x2E :: bytes)

/-- The sign of an exponent, which may be left out where it is positive. -/
inductive Sign : Bool → List UInt8 → Prop
  | absent : Sign false []
  | plus : Sign false [0x2B]
  | minus : Sign true [0x2D]

/-- An exponent in either case, or nothing. -/
inductive Exponent : Option (Bool × List Nat) → List UInt8 → Prop
  | absent : Exponent none []
  | present {mark : UInt8} {negative : Bool} {sign bytes : List UInt8} {digits : List Nat} :
      mark = 0x65 ∨ mark = 0x45 → Sign negative sign → Decimals digits bytes → digits ≠ [] →
        Exponent (some (negative, digits)) (mark :: (sign ++ bytes))

/-- A number without its sign. -/
inductive Magnitude : JsonNumber → List UInt8 → Prop
  | mk {n : JsonNumber} {whole fraction exponent : List UInt8} :
      Whole n.whole whole → Fraction n.fraction fraction → Exponent n.exponent exponent →
        Magnitude n (whole ++ (fraction ++ exponent))

/-- The pieces between the quotes of a string: bytes that need no escape, and escapes. -/
inductive Pieces : List StringPiece → List UInt8 → Prop
  | nil : Pieces [] []
  | byte {b : UInt8} {pieces : List StringPiece} {bytes : List UInt8} :
      ¬ b < 0x20 → b ≠ 0x22 → b ≠ 0x5C → Pieces pieces bytes →
        Pieces (.byte b :: pieces) (b :: bytes)
  | short {b : UInt8} {unit : Nat} {pieces : List StringPiece} {bytes : List UInt8} :
      shortEscape? b = some unit → Pieces pieces bytes →
        Pieces (.escaped unit :: pieces) (0x5C :: b :: bytes)
  | unicode {a b c d : UInt8} {unit : Nat} {pieces : List StringPiece} {bytes : List UInt8} :
      unitOfHex? a b c d = some unit → Pieces pieces bytes →
        Pieces (.escaped unit :: pieces) (0x5C :: 0x75 :: a :: b :: c :: d :: bytes)

/-- The name of a member with the colon after it. -/
inductive Name : JsonText → List UInt8 → Prop
  | mk {pieces : List StringPiece} {before bytes after : List UInt8} :
      Blanks before → Pieces pieces bytes → Blanks after →
        Name (contents pieces) (before ++ 0x22 :: (bytes ++ 0x22 :: (after ++ [0x3A])))

mutual

/-- The bytes of a value, from its first to its last. -/
inductive Value : Json → List UInt8 → Prop
  | null : Value .null [0x6E, 0x75, 0x6C, 0x6C]
  | true : Value (.bool true) [0x74, 0x72, 0x75, 0x65]
  | false : Value (.bool false) [0x66, 0x61, 0x6C, 0x73, 0x65]
  | number {n : JsonNumber} {bytes : List UInt8} :
      n.negative = false → Magnitude n bytes → Value (.number n) bytes
  | negative {n : JsonNumber} {bytes : List UInt8} :
      n.negative = true → Magnitude n bytes → Value (.number n) (0x2D :: bytes)
  | string {pieces : List StringPiece} {bytes : List UInt8} :
      Pieces pieces bytes → Value (.string (contents pieces)) (0x22 :: (bytes ++ [0x22]))
  | emptyArray {blanks : List UInt8} :
      Blanks blanks → Value (.array []) (0x5B :: (blanks ++ [0x5D]))
  | array {items : List Json} {bytes : List UInt8} :
      Items items bytes → Value (.array items) (0x5B :: (bytes ++ [0x5D]))
  | emptyObject {blanks : List UInt8} :
      Blanks blanks → Value (.object []) (0x7B :: (blanks ++ [0x7D]))
  | object {members : List (JsonText × Json)} {bytes : List UInt8} :
      Members members bytes → Value (.object members) (0x7B :: (bytes ++ [0x7D]))

/-- The items of an array that has some, with the blanks around them. -/
inductive Items : List Json → List UInt8 → Prop
  | last {item : Json} {before bytes after : List UInt8} :
      Blanks before → Value item bytes → Blanks after → Items [item] (before ++ (bytes ++ after))
  | cons {item : Json} {rest : List Json} {before bytes after more : List UInt8} :
      Blanks before → Value item bytes → Blanks after → Items rest more →
        Items (item :: rest) (before ++ (bytes ++ (after ++ 0x2C :: more)))

/-- The members of an object that has some, with the blanks around them. -/
inductive Members : List (JsonText × Json) → List UInt8 → Prop
  | last {name : JsonText} {value : Json} {head before bytes after : List UInt8} :
      Name name head → Blanks before → Value value bytes → Blanks after →
        Members [(name, value)] (head ++ (before ++ (bytes ++ after)))
  | cons {name : JsonText} {value : Json} {rest : List (JsonText × Json)}
      {head before bytes after more : List UInt8} :
      Name name head → Blanks before → Value value bytes → Blanks after → Members rest more →
        Members ((name, value) :: rest) (head ++ (before ++ (bytes ++ (after ++ 0x2C :: more))))

end

end Grammar

/-- A text that holds one value and blanks around it. -/
inductive Spells : Json → List UInt8 → Prop
  | mk {value : Json} {before bytes after : List UInt8} :
      Blanks before → Grammar.Value value bytes → Blanks after →
        Spells value (before ++ (bytes ++ after))

end SessionTokens.Json
