import SessionTokens.Json.Basic

/-! # Reading records from JSON

A record is written as an object with a member per field, or as an array of its fields in order.
Unknown members are ignored and repeated fields are refused. A field may be required, or may be null
or missing.
-/

namespace SessionTokens.Json

open Text

/-- A reader of values of one type. -/
abbrev Reader (α : Type) := Json → Option α

/-- Reads a string that is a text. -/
def readText : Reader String
  | .string (.text content) => some content
  | _ => none

/-- Reads a truth value. -/
def readBool : Reader Bool
  | .bool value => some value
  | _ => none

/-- Reads an integer within bounds. -/
def readInt (bounds : IntegerBounds) : Reader Int
  | .number n =>
      match n.toInt? with
      | none => none
      | some value => if bounds.contains value then some value else none
  | _ => none

/-- Reads a null as `none` and every other value by `reader`. -/
def readNullable (reader : Reader α) : Reader (Option α)
  | .null => some none
  | json => (reader json).map some

/-- Reads every item of an array. -/
def readItems (reader : Reader α) : List Json → Option (List α)
  | [] => some []
  | item :: rest => do
      let value ← reader item
      let values ← readItems reader rest
      some (value :: values)

/-- Reads an array. -/
def readArray (reader : Reader α) : Reader (List α)
  | .array items => readItems reader items
  | _ => none

/-- The name of a variant without contents: a string, or an object of one member that is null. -/
def readUnitName : Reader String
  | .string (.text name) => some name
  | .object [(.text name, .null)] => some name
  | _ => none

/-- Reads a variant without contents by its name. -/
def readUnit (ofName? : String → Option α) : Reader α := fun json =>
  match readUnitName json with
  | none => none
  | some name => ofName? name

/-- The fields of a record as they were found. -/
structure Fields where
  /-- Whether the fields came in order, without their names. -/
  positional : Bool
  /-- The value of every field that was found. -/
  found : List (String × Json)
  deriving Repr

/-- The names of an object's members, if all of them are texts. -/
def memberNames : List (JsonText × Json) → Option (List String)
  | [] => some []
  | (.text name, _) :: rest => (memberNames rest).map (name :: ·)
  | _ :: _ => none

/-- The members of an object whose names are among those of the fields. -/
def knownMembers (names : List String) (members : List (JsonText × Json)) :
    List (String × Json) :=
  members.filterMap fun (name, value) =>
    match name with
    | .text name => if names.contains name then some (name, value) else none
    | _ => none

/-- The fields of an object: every name has to be a text, and no field may be repeated. -/
def objectFields (names : List String) (members : List (JsonText × Json)) : Option Fields :=
  match memberNames members with
  | none => none
  | some _ =>
      let found := knownMembers names members
      if names.all fun name => decide ((found.filter (·.1 == name)).length ≤ 1) then
        some ⟨false, found⟩
      else none

/-- The fields of a record with the given field names. -/
def fields (names : List String) : Reader Fields
  | .object members => objectFields names members
  | .array items =>
      if items.length ≤ names.length then some ⟨true, names.zip items⟩ else none
  | _ => none

namespace Fields

/-- The value of a field, if it was found. -/
def get? (f : Fields) (name : String) : Option Json := f.found.lookup name

/-- A field that has to be there. -/
def required (f : Fields) (name : String) (reader : Reader α) : Option α :=
  match f.get? name with
  | none => none
  | some json => reader json

/-- A field that may be null, and missing from an object. -/
def nullable (f : Fields) (name : String) (reader : Reader α) : Option (Option α) :=
  match f.get? name with
  | none => if f.positional then none else some none
  | some json => readNullable reader json

/-- Whether optional fields are as their readers want them. -/
def admits (f : Fields) (optional : List (String × Reader Unit)) : Bool :=
  optional.all fun (name, reader) => (f.nullable name reader).isSome

end Fields

end SessionTokens.Json
