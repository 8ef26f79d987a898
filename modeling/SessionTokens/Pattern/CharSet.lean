import SessionTokens.Pattern.Leaf
import SessionTokens.Text.Split

/-! # Sets of characters in brackets

A set lists characters, ranges, named sets and sets in brackets. Operators divide the list: they
combine what was listed before with what follows, from left to right.
-/

namespace SessionTokens.Pattern

open Text

/-- The names of sets that are written between colons. -/
def setNames : List String :=
  ["alnum", "alpha", "ascii", "blank", "cntrl", "digit", "graph", "lower", "print", "punct",
    "space", "upper", "word", "xdigit"]

/-- Takes a named set from behind its bracket. -/
def takeNamedSet : List Char → Option (CharSet × List Char)
  | ':' :: rest =>
      let (negated, rest) :=
        match rest with
        | '^' :: rest => (true, rest)
        | _ => (false, rest)
      match splitFirst ':' rest with
      | (name, some (']' :: rest)) =>
          if setNames.contains (String.ofList name) then some (.named negated, rest) else none
      | _ => none
  | _ => none

/-- Takes a single member of a set. Conditions on places are no members. -/
def takeMember (spaced : Bool) : List Char → Option (CharSet × List Char)
  | [] => none
  | '\\' :: rest =>
      match takeEscape spaced rest with
      | some (.literal c _, rest) => some (.range c c, rest)
      | some (.set set, rest) => some (set, rest)
      | _ => none
  | c :: rest => some (.range c c, rest)

/-- Whether a minus sign is no part of a range, because the next character is another one or ends
the set. For this a remark ends with its sign. -/
def endsRange (spaced : Bool) (text : List Char) : Bool :=
  let next :=
    match spaced, text.dropWhile isBlank with
    | false, _ => text
    | true, '#' :: rest => rest.dropWhile isBlank
    | true, rest => rest
  next.head? == some ']' || next.head? == some '-'

/-- Takes a member of a set or a range, which goes from a character to one that is not before it. -/
def takeRange (spaced : Bool) (text : List Char) : Option (CharSet × List Char) :=
  match takeMember spaced text with
  | none => none
  | some (first, rest) =>
      match skip spaced rest with
      | '-' :: rest =>
          if endsRange spaced rest then some (first, '-' :: rest)
          else
            match first, takeMember spaced (skip spaced rest) with
            | .range first _, some (.range last _, rest) =>
                if first ≤ last then some (.range first last, rest) else none
            | _, _ => none
      | rest => some (first, rest)

/-- A set whose bracket was not closed yet: what stands before its last operator, and what was
listed since. -/
structure OpenSet where
  negated : Bool
  /-- Whether nothing but minus signs came so far. -/
  fresh : Bool := true
  before : Option CharSet := none
  listed : List CharSet := []

namespace OpenSet

/-- The set with one more member. -/
def add (set : OpenSet) (member : CharSet) : OpenSet :=
  { set with listed := set.listed ++ [member], fresh := false }

/-- What was listed since the last operator. -/
def listedSet (set : OpenSet) : CharSet :=
  match set.listed with
  | [] => .empty
  | [member] => member
  | members => .union members

/-- All that was listed. -/
def value (set : OpenSet) : CharSet :=
  match set.before with
  | none => set.listedSet
  | some before => .combined before set.listedSet

/-- The set behind an operator. -/
def divide (set : OpenSet) : OpenSet :=
  { set with before := some set.value, listed := [], fresh := false }

/-- The set once its bracket is closed. -/
def close (set : OpenSet) : CharSet := .bracketed set.negated set.value

/-- Whether a character stands for itself here though it would not do so later: minus signs do at
the start of a set, and the closing bracket as the very first member. -/
def takesAsMember (set : OpenSet) (c : Char) : Bool :=
  set.fresh && (c == '-' || (c == ']' && set.listed.isEmpty))

/-- The set with a character that stands for itself at its start. -/
def addAtStart (set : OpenSet) (c : Char) : OpenSet :=
  { set.add (.range c c) with fresh := c == '-' }

end OpenSet

/-- Opens a set behind its bracket. -/
def openSet (spaced : Bool) (text : List Char) : OpenSet × List Char :=
  match skip spaced text with
  | '^' :: rest => ({ negated := true }, rest)
  | rest => ({ negated := false }, rest)

/-- Whether an operator begins with a character that is followed by another one. -/
def isOperator (c : Char) (next : Option Char) : Bool :=
  (c == '&' || c == '-' || c == '~') && next == some c

/-- Takes the rest of a set that lies within others. The fuel bounds the number of members. -/
def takeMembers (spaced : Bool) :
    Nat → OpenSet → List OpenSet → List Char → Option (CharSet × List Char)
  | 0, _, _, _ => none
  | fuel + 1, set, outer, text =>
      match skip spaced text with
      | [] => none
      | c :: rest =>
          if set.takesAsMember c then takeMembers spaced fuel (set.addAtStart c) outer rest
          else if c == '[' then
            match takeNamedSet rest with
            | some (named, rest) => takeMembers spaced fuel (set.add named) outer rest
            | none =>
                let (inner, rest) := openSet spaced rest
                takeMembers spaced fuel inner (set :: outer) rest
          else if c == ']' then
            match outer with
            | [] => some (set.close, rest)
            | next :: outer => takeMembers spaced fuel (next.add set.close) outer rest
          else if isOperator c rest.head? then
            takeMembers spaced fuel set.divide outer (rest.drop 1)
          else
            (takeRange spaced (c :: rest)).bind fun (member, rest) =>
              takeMembers spaced fuel (set.add member) outer rest

/-- Takes a set from behind its bracket. -/
def takeSet (spaced : Bool) (text : List Char) : Option (CharSet × List Char) :=
  let (set, rest) := openSet spaced text
  takeMembers spaced (rest.length + 1) set [] rest

end SessionTokens.Pattern
