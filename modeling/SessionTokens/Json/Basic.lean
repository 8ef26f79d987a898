import SessionTokens.Text.Integer

/-! # JSON values

A value keeps what its readers have to see: the members of an object in order and with repetitions,
the spelling of a number, and whether the contents of a string are a text at all. Strings inside a
value that nobody reads only have to be well-formed, so a string may fail to be a text.
-/

namespace SessionTokens

/-- The spelling of a number: a sign, the digits before the point and what follows them. -/
structure JsonNumber where
  negative : Bool
  /-- The digits before the point, read as a number. -/
  whole : Nat
  /-- The digits after the point, if there is a point. -/
  fraction : Option (List Nat)
  /-- Whether the exponent is negative, and its digits, if there is one. -/
  exponent : Option (Bool × List Nat)
  deriving DecidableEq, Repr

/-- The contents of a string. -/
inductive JsonText where
  | text (content : String)
  /-- An escape names half of a surrogate pair. Whether that is the first half of one, as the last
  thing in the string, is kept. -/
  | unpairedSurrogate (breaksOff : Bool)
  /-- The bytes are not UTF-8. -/
  | notUtf8
  deriving DecidableEq, Repr

/-- A JSON value. -/
inductive Json where
  | null
  | bool (value : Bool)
  | number (number : JsonNumber)
  | string (content : JsonText)
  | array (items : List Json)
  | object (members : List (JsonText × Json))
  deriving Repr

namespace Json

/-- The value of a text. -/
def ofString (text : String) : Json := .string (.text text)

/-- The value of an integer. -/
def ofInt (value : Int) : Json := .number ⟨decide (value < 0), value.natAbs, none, none⟩

/-- The object of members whose names are texts. -/
def ofMembers (members : List (String × Json)) : Json :=
  .object (members.map fun (name, value) => (.text name, value))

end Json

/-- The integer that a number spells. A fraction or an exponent makes it no integer, and so does the
sign of minus zero. -/
def JsonNumber.toInt? (n : JsonNumber) : Option Int :=
  match n.fraction, n.exponent with
  | none, none =>
      if n.negative then (if n.whole = 0 then none else some (-(n.whole : Int)))
      else some n.whole
  | _, _ => none

end SessionTokens
