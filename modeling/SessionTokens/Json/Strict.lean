import SessionTokens.Json.Real

/-! # Values that are read in full

A value that nobody reads only has to be well-formed. Where a value is read before it is known what
it is for, all its strings have to be texts, its numbers must not be too great for floating-point
numbers, and it must not be nested too deeply.
-/

namespace SessionTokens

/-- Whether the contents of a string are a text. -/
def JsonText.isText : JsonText → Bool
  | .text _ => true
  | _ => false

namespace Json

mutual

/-- Whether a value can be read in full with at most `depth` levels of nesting. -/
def isReadable (depth : Nat) : Json → Bool
  | .number n => n.toReal?.isSome
  | .string content => content.isText
  | .array items => decide (0 < depth) && areReadable (depth - 1) items
  | .object members => decide (0 < depth) && areMembersReadable (depth - 1) members
  | _ => true

/-- Whether all items of an array can be read in full. -/
def areReadable (depth : Nat) : List Json → Bool
  | [] => true
  | item :: rest => item.isReadable depth && areReadable depth rest

/-- Whether all members of an object can be read in full. -/
def areMembersReadable (depth : Nat) : List (JsonText × Json) → Bool
  | [] => true
  | (name, value) :: rest =>
      name.isText && value.isReadable depth && areMembersReadable depth rest

end

end Json

end SessionTokens
