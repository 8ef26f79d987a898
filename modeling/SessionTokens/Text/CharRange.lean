/-! # Ranges of characters

A property of characters is given by the ranges of the characters that have it.
-/

namespace SessionTokens.Text

/-- The first and the last character of a range, by their numbers. -/
abbrev CharRange := Nat × Nat

/-- Whether a character number lies in a range. -/
def CharRange.contains (range : CharRange) (n : Nat) : Bool := range.1 ≤ n && n ≤ range.2

/-- Whether a character lies in one of some ranges. -/
def isAmong (ranges : List CharRange) (c : Char) : Bool := ranges.any (·.contains c.toNat)

end SessionTokens.Text
