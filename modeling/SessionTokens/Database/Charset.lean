/-! # Character sets and collations

A connection names the character set of its texts and how they are compared. A database knows a
fixed list of both; the name of a collation begins with that of its character set.
-/

namespace SessionTokens

/-- How the names of the collations of a character set for all of Unicode go on. -/
def unicodeCollations : List String :=
  ["bin", "croatian_ci", "czech_ci", "danish_ci", "esperanto_ci", "estonian_ci", "general_ci",
    "german2_ci", "hungarian_ci", "icelandic_ci", "latvian_ci", "lithuanian_ci", "persian_ci",
    "polish_ci", "roman_ci", "romanian_ci", "sinhala_ci", "slovak_ci", "slovenian_ci", "spanish2_ci",
    "spanish_ci", "swedish_ci", "turkish_ci", "unicode_520_ci", "unicode_ci", "vietnamese_ci"]

/-- The character sets, each with how the names of its collations go on. -/
def charsets : List (String × List String) := [
  ("armscii8", ["bin", "general_ci"]), ("ascii", ["bin", "general_ci"]),
  ("big5", ["bin", "chinese_ci"]), ("binary", []),
  ("cp1250", ["bin", "croatian_ci", "czech_cs", "general_ci", "polish_ci"]),
  ("cp1251", ["bin", "bulgarian_ci", "general_ci", "general_cs", "ukrainian_ci"]),
  ("cp1256", ["bin", "general_ci"]), ("cp1257", ["bin", "general_ci", "lithuanian_ci"]),
  ("cp850", ["bin", "general_ci"]), ("cp852", ["bin", "general_ci"]),
  ("cp866", ["bin", "general_ci"]), ("cp932", ["bin", "japanese_ci"]),
  ("dec8", ["bin", "swedish_ci"]), ("eucjpms", ["bin", "japanese_ci"]),
  ("euckr", ["bin", "korean_ci"]), ("gb18030", ["bin", "chinese_ci", "unicode_520_ci"]),
  ("gb2312", ["bin", "chinese_ci"]), ("gbk", ["bin", "chinese_ci"]),
  ("geostd8", ["bin", "general_ci"]), ("greek", ["bin", "general_ci"]),
  ("hebrew", ["bin", "general_ci"]), ("hp8", ["bin", "english_ci"]),
  ("keybcs2", ["bin", "general_ci"]), ("koi8r", ["bin", "general_ci"]),
  ("koi8u", ["bin", "general_ci"]),
  ("latin1", ["bin", "danish_ci", "general_ci", "general_cs", "german1_ci", "german2_ci",
    "spanish_ci", "swedish_ci"]),
  ("latin2", ["bin", "croatian_ci", "czech_cs", "general_ci", "hungarian_ci"]),
  ("latin5", ["bin", "turkish_ci"]), ("latin7", ["bin", "estonian_cs", "general_ci", "general_cs"]),
  ("macce", ["bin", "general_ci"]), ("macroman", ["bin", "general_ci"]),
  ("sjis", ["bin", "japanese_ci"]), ("swe7", ["bin", "swedish_ci"]), ("tis620", ["bin", "thai_ci"]),
  ("ucs2", "general_mysql500_ci" :: unicodeCollations), ("ujis", ["bin", "japanese_ci"]),
  ("utf16", unicodeCollations), ("utf16le", ["bin", "general_ci"]), ("utf32", unicodeCollations),
  ("utf8", "general_mysql500_ci" :: "tolower_ci" :: unicodeCollations),
  ("utf8mb4", "0900_ai_ci" :: unicodeCollations)]

/-- Whether a text names a character set. -/
def isCharset (name : String) : Bool := (charsets.map (·.1)).contains name

/-- Whether a text names a collation. Bytes are compared as they are. -/
def isCollation (name : String) : Bool :=
  name == "binary" ||
    charsets.any fun (charset, collations) => collations.any fun rest => name == charset ++ "_" ++ rest

end SessionTokens
