import SessionTokens.Number.Shortest
import SessionTokens.Number.Spelling
import SessionTokens.Pattern.Support

/-! # What a directive asks of a field

A field is asked for by its name, or by its name and its value. A value is a truth value or a
number, or else a pattern that the text of the value has to match.
-/

namespace SessionTokens.Logging

open Number Text

/-- The value that a field is asked for. -/
inductive FieldValue where
  | truth (value : Bool)
  | real (value : Binary64)
  | unsigned (value : Int)
  | signed (value : Int)
  | pattern (text : String)
  deriving DecidableEq, Repr

namespace FieldValue

/-- Reads a value: of all kinds that fit, the first one of truth values, unsigned and signed
integers, other numbers and patterns. -/
def read (text : List Char) : Except Pattern.Fault FieldValue :=
  if text = "true".toList then .ok (.truth true)
  else if text = "false".toList then .ok (.truth false)
  else
    match readInteger .unsigned64 text, readInteger .signed64 text, readBinary64 text with
    | .ok n, _, _ => .ok (.unsigned n)
    | _, .ok n, _ => .ok (.signed n)
    | _, _, some x => .ok (.real x)
    | _, _, none =>
        match Pattern.fault? text with
        | some fault => .error fault
        | none => .ok (.pattern (String.ofList text))

/-- The written form of a value. Numbers are written in their own way, patterns as they were
read. -/
def display : FieldValue → String
  | .truth value => if value then "true" else "false"
  | .real value => String.ofList value.toText
  | .unsigned value | .signed value => String.ofList (intDigits value)
  | .pattern text => text

/-- The place of a kind of value among the others. -/
def rank : FieldValue → Nat
  | .truth _ => 0
  | .real _ => 1
  | .unsigned _ => 2
  | .signed _ => 3
  | .pattern _ => 4

/-- Values in order: by their kind, and those of one kind by what they are. -/
def order : FieldValue → FieldValue → Ordering
  | .truth a, .truth b => compare a b
  | .real a, .real b => a.order b
  | .unsigned a, .unsigned b | .signed a, .signed b => compare a b
  | .pattern a, .pattern b => compare a b
  | a, b => compare a.rank b.rank

instance : Ord FieldValue := ⟨order⟩

end FieldValue

/-- What a directive asks of a field: its name, and a value if it matters. -/
structure FieldPattern where
  name : String
  value : Option FieldValue
  deriving DecidableEq, Repr

namespace FieldPattern

/-- Reads a field with or without a value. The value ends at a second equals sign. -/
def read (text : List Char) : Except Pattern.Fault FieldPattern :=
  match splitFirst '=' text with
  | (name, none) => .ok ⟨String.ofList name, none⟩
  | (name, some value) =>
      (FieldValue.read (splitFirst '=' value).1).map fun value => ⟨String.ofList name, some value⟩

/-- The written form of a field. -/
def display (field : FieldPattern) : String :=
  match field.value with
  | none => field.name
  | some value => field.name ++ "=" ++ value.display

/-- Fields in order: those that have a value come last, and otherwise the name comes before the
value. -/
def order (a b : FieldPattern) : Ordering :=
  (compare a.value.isSome b.value.isSome).then
    ((compare a.name b.name).then (compare a.value b.value))

instance : Ord FieldPattern := ⟨order⟩

end FieldPattern

end SessionTokens.Logging
