/-! # Lower case, as far as ASCII words can tell

Settings are compared without regard to case with words of ASCII letters. Apart from the ASCII
capitals, the only character whose lower case is a single ASCII letter is the Kelvin sign, so
folding these decides every such comparison.
-/

namespace SessionTokens.Text

/-- The lower case of a character where that is an ASCII letter, the character itself otherwise. -/
def foldChar (c : Char) : Char :=
  if 'A' ≤ c ∧ c ≤ 'Z' then Char.ofNat (c.toNat + 32)
  else if c.toNat = 0x212A then 'k'
  else c

/-- Folds every character of a text. -/
def fold (text : List Char) : List Char := text.map foldChar

/-- The lower case of an ASCII capital; every other character stays as it is. -/
def foldAscii (c : Char) : Char :=
  if 'A' ≤ c ∧ c ≤ 'Z' then Char.ofNat (c.toNat + 32) else c

/-- Whether two texts agree up to the case of ASCII letters. -/
def equalIgnoringAsciiCase (a b : List Char) : Bool := a.map foldAscii == b.map foldAscii

end SessionTokens.Text
