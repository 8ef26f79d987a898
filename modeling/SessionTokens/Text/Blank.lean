/-! # White space

White space is what Unicode calls so, which is more than the ASCII blanks.
-/

namespace SessionTokens.Text

/-- Whether a character is white space. -/
def isBlank (c : Char) : Bool :=
  let n := c.toNat
  (9 ≤ n && n ≤ 13) || n == 0x20 || n == 0x85 || n == 0xA0 || n == 0x1680 ||
    (0x2000 ≤ n && n ≤ 0x200A) || n == 0x2028 || n == 0x2029 || n == 0x202F || n == 0x205F ||
    n == 0x3000

/-- A text without the white space at its start. -/
def trimStart (text : List Char) : List Char := text.dropWhile isBlank

/-- A text without the white space at its end. -/
def trimEnd (text : List Char) : List Char := (text.reverse.dropWhile isBlank).reverse

/-- A text without the white space around it. -/
def trim (text : List Char) : List Char := trimEnd (trimStart text)

example : trim "\u3000a b\t\u0085".toList = "a b".toList := by decide

end SessionTokens.Text
