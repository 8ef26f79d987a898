import SessionTokens.Pattern.CharSet
import SessionTokens.Text.Alphabetic

/-! # The tree of a pattern

A pattern is an alternation of sequences of leaves, repetitions and groups. A group may have a name,
which no other group may have, and flags, which hold within it; flags may also be written between
parts, and then hold to the end of the group around them.

A pattern stands between braces and has no closing brace of its own, so that a repetition cannot be
counted: an opening brace begins nothing.
-/

namespace SessionTokens.Pattern

open Text

/-- The flags that a pattern turns on or off. The other flags only change what it matches. -/
structure FlagChange where
  ignoresCase : Option Bool := none
  unicode : Option Bool := none
  spaced : Option Bool := none
  deriving DecidableEq, Repr

/-- The letters of all flags. -/
def flagLetters : List Char := ['i', 'm', 's', 'U', 'u', 'R', 'x']

/-- Reads flags: letters, none twice, of which those behind a minus sign are turned off. -/
def FlagChange.read? (text : List Char) : Option FlagChange :=
  let (on, off) := splitFirst '-' text
  let change (letter : Char) : Option Bool :=
    if on.contains letter then some true
    else if (off.getD []).contains letter then some false
    else none
  if text.Nodup && (text.all fun c => c == '-' || flagLetters.contains c) && off != some [] then
    some ⟨change 'i', change 'u', change 'x'⟩
  else none

/-- A pattern as a tree. -/
inductive Node where
  | leaf (here : Leaf)
  | change (flags : FlagChange)
  | repeated (node : Node)
  | group (flags : FlagChange) (inside : Node)
  | sequence (parts : List Node)
  | choice (branches : List Node)
  deriving Repr

/-- What an opening parenthesis begins. -/
inductive Opening where
  | group (name : Option (List Char)) (flags : FlagChange)
  | change (flags : FlagChange)

/-- Whether a text may name a group. -/
def isGroupName : List Char → Bool
  | [] => false
  | c :: rest =>
      (c == '_' || isAlphabetic c) &&
        rest.all fun c => c == '_' || c == '.' || c == '[' || c == ']' || isAlphanumeric c

/-- Takes the name of a group and its closing bracket. -/
def takeGroupName (text : List Char) : Option (Opening × List Char) :=
  match splitFirst '>' text with
  | (name, some rest) => if isGroupName name then some (.group (some name) {}, rest) else none
  | _ => none

/-- Takes flags and what ends them: a colon begins a group, a parenthesis none. -/
def takeFlags (text : List Char) : Option (Opening × List Char) :=
  let isEnd (c : Char) : Bool := c == ':' || c == ')'
  let letters := text.takeWhile fun c => !isEnd c
  match text.drop letters.length with
  | [] => none
  | c :: rest =>
      (FlagChange.read? letters).bind fun flags =>
        if c == ':' then some (.group none flags, rest)
        else if letters.isEmpty then none
        else some (.change flags, rest)

/-- Takes what follows an opening parenthesis. -/
def takeOpening (spaced : Bool) (text : List Char) : Option (Opening × List Char) :=
  match skip spaced text with
  | '?' :: 'P' :: '<' :: rest | '?' :: '<' :: rest => takeGroupName rest
  | '?' :: rest => takeFlags rest
  | rest => some (.group none {}, rest)

/-- A group that was not closed yet: its flags, whether the pattern around it is spaced, its
branches before the last bar and the parts of the branch since. -/
structure OpenGroup where
  flags : FlagChange := {}
  spacedAround : Bool := false
  branches : List Node := []
  parts : List Node := []

namespace OpenGroup

/-- The group with one more part. -/
def add (group : OpenGroup) (part : Node) : OpenGroup :=
  { group with parts := group.parts ++ [part] }

/-- The branch since the last bar. -/
def branch (group : OpenGroup) : Node :=
  match group.parts with
  | [part] => part
  | parts => .sequence parts

/-- The group behind a bar. -/
def divide (group : OpenGroup) : OpenGroup :=
  { group with branches := group.branches ++ [group.branch], parts := [] }

/-- What is in the group. -/
def value (group : OpenGroup) : Node :=
  match group.branches with
  | [] => group.branch
  | branches => .choice (branches ++ [group.branch])

/-- The group once it is closed. -/
def close (group : OpenGroup) : Node := .group group.flags group.value

/-- The group with its last part repeated. There has to be one, and flags cannot be repeated. -/
def repeatLast (group : OpenGroup) : Option OpenGroup :=
  match group.parts.getLast? with
  | none | some (.change _) => none
  | some part => some { group with parts := group.parts.dropLast ++ [.repeated part] }

end OpenGroup

/-- How far a pattern was read: whether it is spaced here, the group that is open and those around
it, and the names of groups so far. -/
structure Reading where
  spaced : Bool := false
  current : OpenGroup := {}
  outer : List OpenGroup := []
  names : List (List Char) := []

namespace Reading

/-- Reads on with one more part. -/
def add (reading : Reading) (part : Node) : Reading :=
  { reading with current := reading.current.add part }

/-- Reads on behind an opening parenthesis and what followed it. -/
def start (reading : Reading) : Opening → Option Reading
  | .change flags =>
      some { reading.add (.change flags) with spaced := flags.spaced.getD reading.spaced }
  | .group name flags =>
      if name.any reading.names.contains then none
      else
        some {
          spaced := flags.spaced.getD reading.spaced
          current := { flags, spacedAround := reading.spaced }
          outer := reading.current :: reading.outer
          names := name.toList ++ reading.names }

/-- Reads on behind a closing parenthesis. -/
def finish (reading : Reading) : Option Reading :=
  match reading.outer with
  | [] => none
  | next :: outer =>
      some { reading with
        spaced := reading.current.spacedAround
        current := next.add reading.current.close
        outer }

/-- Reads on with a character and as much behind it as belongs to it. A question mark behind a
repetition belongs to it. -/
def next (reading : Reading) (c : Char) (rest : List Char) : Option (Reading × List Char) :=
  match c with
  | '(' =>
      (takeOpening reading.spaced rest).bind fun (opening, rest) =>
        (reading.start opening).map (·, rest)
  | ')' => reading.finish.map (·, rest)
  | '|' => some ({ reading with current := reading.current.divide }, rest)
  | '[' =>
      (takeSet reading.spaced rest).map fun (set, rest) => (reading.add (.leaf (.set set)), rest)
  | '?' | '*' | '+' =>
      reading.current.repeatLast.map fun current =>
        ({ reading with current }, if rest.head? == some '?' then rest.drop 1 else rest)
  | '\x7b' => none
  | '\\' =>
      (takeEscape reading.spaced rest).map fun (leaf, rest) => (reading.add (.leaf leaf), rest)
  | '.' => some (reading.add (.leaf .anyCharacter), rest)
  | '^' | '$' => some (reading.add (.leaf .anchor), rest)
  | c => some (reading.add (.leaf (.literal c false)), rest)

/-- Reads a pattern to its end, where no group may be open. The fuel bounds the number of parts. -/
def toEnd : Nat → Reading → List Char → Option Node
  | 0, _, _ => none
  | fuel + 1, reading, text =>
      match skip reading.spaced text with
      | [] => if reading.outer.isEmpty then some reading.current.value else none
      | c :: rest => (reading.next c rest).bind fun (reading, rest) => toEnd fuel reading rest

end Reading

namespace Node

mutual

/-- How deeply the parts of a pattern are nested. -/
def depth : Node → Nat
  | .leaf (.set members) => members.depth
  | .leaf _ | .change _ | .sequence [] => 0
  | .repeated node => node.depth + 1
  | .group _ inside => inside.depth + 1
  | .sequence parts => greatestDepth parts + 1
  | .choice branches => greatestDepth branches + 1

/-- The greatest depth of some patterns. -/
def greatestDepth : List Node → Nat
  | [] => 0
  | node :: rest => max node.depth (greatestDepth rest)

end

/-- The tree of a pattern. -/
def read? (text : List Char) : Option Node := Reading.toEnd (text.length + 1) {} text

end Node

end SessionTokens.Pattern
