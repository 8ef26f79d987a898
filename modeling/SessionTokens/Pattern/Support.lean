import SessionTokens.Pattern.Node

/-! # Which patterns can be matched

What a pattern matches is decided without tables of Unicode and on text that is valid UTF-8. A
pattern is refused where it would need such a table, or could match bytes that are no character.
Which of the two a leaf has to fear depends on the flags that hold at its place.
-/

namespace SessionTokens.Pattern

/-- The flags that hold at a place of a pattern. -/
structure Mode where
  ignoresCase : Bool := false
  unicode : Bool := true
  deriving DecidableEq, Repr

/-- The flags that hold behind a change. -/
def Mode.after (mode : Mode) (flags : FlagChange) : Mode :=
  ⟨flags.ignoresCase.getD mode.ignoresCase, flags.unicode.getD mode.unicode⟩

/-- Why a pattern cannot be matched. -/
inductive Fault where
  | malformed
  | unicodeBoundary
  deriving DecidableEq, Repr

/-- The wording of a fault. -/
def Fault.message : Fault → String
  | .malformed => "error building NFA"
  | .unicodeBoundary =>
      "unsupported regex feature for DFAs: cannot build DFAs for regexes with Unicode word " ++
        "boundaries; switch to ASCII word boundaries, or heuristically enable Unicode word " ++
        "boundaries or use a different regex engine"

mutual

/-- Whether a set is refused. The case of Unicode characters and the shorthands need tables; without
Unicode, whatever reaches beyond ASCII matches lone bytes. -/
def CharSet.isRefused (mode : Mode) : CharSet → Bool
  | .empty => false
  | .range _ last => if mode.unicode then mode.ignoresCase else 0x80 ≤ last.toNat
  | .named negated => if mode.unicode then mode.ignoresCase else negated
  | .shorthand negated => mode.unicode || negated
  | .bracketed negated inside => (!mode.unicode && negated) || inside.isRefused mode
  | .union parts => CharSet.anyRefused mode parts
  | .combined left right => left.isRefused mode || right.isRefused mode

/-- Whether one of some sets is refused. -/
def CharSet.anyRefused (mode : Mode) : List CharSet → Bool
  | [] => false
  | part :: rest => part.isRefused mode || CharSet.anyRefused mode rest

end

namespace Leaf

/-- Whether a leaf is refused. -/
def isRefused (mode : Mode) : Leaf → Bool
  | .literal c isByte => if mode.unicode then mode.ignoresCase else isByte && 0x80 ≤ c.toNat
  | .anyCharacter => !mode.unicode
  | .set members => members.isRefused mode
  | .anchor | .wordBoundary => false

/-- Whether a leaf is a boundary between words of Unicode characters. -/
def isUnicodeBoundary (mode : Mode) : Leaf → Bool
  | .wordBoundary => mode.unicode
  | _ => false

end Leaf

namespace Node

mutual

/-- The leaves of a pattern with the flags that hold for them, and the flags that hold behind it.
A change of flags ends with the group around it. -/
def leaves (mode : Mode) : Node → List (Mode × Leaf) × Mode
  | .leaf here => ([(mode, here)], mode)
  | .change flags => ([], mode.after flags)
  | .repeated node => node.leaves mode
  | .group flags inside => ((inside.leaves (mode.after flags)).1, mode)
  | .sequence nodes | .choice nodes => leavesOfAll mode nodes

/-- The leaves of patterns that follow one another. -/
def leavesOfAll (mode : Mode) : List Node → List (Mode × Leaf) × Mode
  | [] => ([], mode)
  | node :: rest =>
      let (first, mode) := node.leaves mode
      let (others, mode) := leavesOfAll mode rest
      (first ++ others, mode)

end

/-- How deeply the parts of a pattern may be nested. -/
def depthLimit : Nat := 250

/-- What keeps a pattern from being matched. -/
def fault? (node : Node) : Option Fault :=
  let leaves := (node.leaves {}).1
  if depthLimit < node.depth || leaves.any fun (mode, here) => here.isRefused mode then
    some .malformed
  else if leaves.any fun (mode, here) => here.isUnicodeBoundary mode then some .unicodeBoundary
  else none

end Node

/-- What keeps a text from being a pattern that can be matched. -/
def fault? (text : List Char) : Option Fault :=
  match Node.read? text with
  | none => some .malformed
  | some node => node.fault?

example : fault? "a|(b+?[^c-e&&\\x64])*".toList = none := by decide +kernel

example : fault? "(?i)a".toList = some .malformed := by decide +kernel

example : fault? "\\bé(?-u:\\b)".toList = some .unicodeBoundary := by decide +kernel

end SessionTokens.Pattern
