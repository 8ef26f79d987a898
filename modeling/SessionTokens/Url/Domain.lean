import SessionTokens.Url.Domain.Direction
import SessionTokens.Url.Domain.Joining
import SessionTokens.Url.Domain.Mapping
import SessionTokens.Url.Punycode

/-! # Domains

A domain is a sequence of labels. What its characters stand for takes their place first, so that a
domain has one form however it is written; a label that is spelled in ASCII has to be the spelling
of that form. Then every label is checked for characters that are out of place.
-/

namespace SessionTokens.Url

open Text

/-- Whether a character separates parts of a URL, so that no host may hold it. -/
def isSeparator (c : Char) : Bool :=
  c.toNat == 0 || "\t\n\r #/:<>?@[\\]^|".toList.contains c

/-- Whether a character may not be part of a domain. -/
def isDomainForbidden (c : Char) : Bool :=
  isSeparator c || decide (c.toNat < 0x20) || c == '%' || c.toNat == 0x7F

/-- Whether a character is ASCII. -/
def isAscii (c : Char) : Bool := decide (c.toNat < 0x80)

/-- The characters that a text stands for, unless one of it may not be written. -/
def meant? : List Char → Option (List Char)
  | [] => some []
  | c :: rest =>
      match Meaning.of c with
      | .disallowed => none
      | .itself => (meant? rest).map (c :: ·)
      | .other text => (meant? rest).map (text ++ ·)

/-- How the labels begin that are spelled in ASCII. -/
def spellingMark : List Char := "xn--".toList

/-- The greatest number of characters of a label that has to be spelled in ASCII. -/
def longestSpelled : Nat := 1000

/-- The greatest number of characters of a spelling. -/
def longestSpelling : Nat := 2000

/-- The label that is spelled. It has a character beyond ASCII, and each of its characters stands for
itself. -/
def spelled? (spelling : List Char) : Option (List Char) :=
  if !spelling.all isAscii || longestSpelling < spelling.length then none
  else
    (Punycode.decode spelling).filter fun label =>
      !label.all isAscii && (label.all fun c => Meaning.of c == .itself) && isComposed label

/-- The form of a label that is not spelled in ASCII. -/
def unspelled? (label : List Char) : Option (List Char) :=
  if spellingMark.isPrefixOf label then spelled? (label.drop spellingMark.length)
  else if !label.all isAscii && longestSpelled < label.length then none
  else some label

/-- Whether the characters of a label are in place: it does not begin with a mark, and its joiners
join something or keep it apart. -/
def isInPlace (label : List Char) : Bool :=
  !((label.head?.map isMark).getD false) && joinersInPlace [] label

/-- Whether the labels of a domain keep the rule on directions, as far as it has one. -/
def keepDirections (labels : List (List Char)) : Bool :=
  let directions := labels.map fun label => label.map Direction.of
  !(directions.any fun label => label.any Direction.isRightward) || directions.all keepsDirection

/-- The stroke through a sign, as a mark. -/
def stroke : Char := '\u0338'

/-- Whether a sign begins a text that makes one character with the stroke among the marks behind
it. -/
def beginsStruck (c : Char) (rest : List Char) : Bool :=
  let marks := rest.takeWhile fun mark => combiningClass mark != 0
  composes c stroke && (marks.find? fun mark => combiningClass mark == 1) == some stroke

/-- Whether a domain has a character that it may not hold. -/
def hasForbidden : List Char → Bool
  | [] => false
  | c :: rest => (isDomainForbidden c && !beginsStruck c rest) || hasForbidden rest

/-- The labels of a domain in the form that it has however it is written. -/
def domainLabels? (domain : List Char) : Option (List (List Char)) := do
  let text ← meant? domain
  if hasForbidden text then none
  else
    let labels ← (splitAll '.' text).mapM unspelled?
    if labels.all isInPlace && keepDirections labels then some labels else none

end SessionTokens.Url
