import SessionTokens.Json.Parser
import SessionTokens.Json.Strict
import SessionTokens.Toml.Document

/-! # Settings files

A settings file is written in TOML. Where there is none of its name, a file is read whose name goes
on with the ending of a format. Which other formats there are, and in which order they are tried, is
up to the library that reads settings files; TOML and JSON are given here.
-/

namespace SessionTokens

open Text

namespace Setting

/-- The setting of a number: an integer where it is one of 64 bits, else a floating-point number. -/
def ofNumber? (n : JsonNumber) : Option Setting :=
  match n.toInt?.filter IntegerBounds.signed64.contains with
  | some value => some (integer value)
  | none => n.toReal?.map real

mutual

/-- The setting that a JSON value stands for. -/
def ofJson? : Json → Option Setting
  | .null => some absent
  | .bool value => some (flag value)
  | .number n => ofNumber? n
  | .string (.text value) => some (text value)
  | .string _ => none
  | .array values => (ofItems? values).map list
  | .object members => (ofMembers? members).map table

/-- The settings that the items of an array stand for. -/
def ofItems? : List Json → Option (List Setting)
  | [] => some []
  | item :: rest => do
      let setting ← ofJson? item
      let settings ← ofItems? rest
      some (setting :: settings)

/-- The settings that the members of an object stand for. Of members with one name the last counts. -/
def ofMembers? : List (JsonText × Json) → Option (List (String × Setting))
  | [] => some []
  | (.text name, value) :: rest => do
      let setting ← ofJson? value
      let settings ← ofMembers? rest
      some (if settings.any (·.1 == name) then settings else (name, setting) :: settings)
  | _ => none

end

mutual

theorem ofJson?_hasDistinctNames : ∀ {json : Json} {setting : Setting},
    ofJson? json = some setting → setting.HasDistinctNames
  | .null, _, h => by
      cases h
      exact .absent
  | .bool _, _, h => by
      cases h
      exact .flag
  | .number _, _, h => by
      rw [ofJson?, ofNumber?] at h
      split at h
      next =>
        cases h
        exact .integer
      next =>
        obtain ⟨value, -, rfl⟩ := Option.map_eq_some_iff.mp h
        exact .real
  | .string (.text _), _, h => by
      cases h
      exact .text
  | .string (.unpairedSurrogate _), _, h | .string .notUtf8, _, h => by cases h
  | .array items, _, h => by
      rw [ofJson?] at h
      obtain ⟨settings, hsettings, rfl⟩ := Option.map_eq_some_iff.mp h
      exact .list (ofItems?_haveDistinctNames hsettings)
  | .object members, _, h => by
      rw [ofJson?] at h
      obtain ⟨settings, hsettings, rfl⟩ := Option.map_eq_some_iff.mp h
      exact ofMembers?_hasDistinctNames hsettings

theorem ofItems?_haveDistinctNames : ∀ {items : List Json} {settings : List Setting},
    ofItems? items = some settings → ∀ setting ∈ settings, setting.HasDistinctNames
  | [], _, h => by
      cases h
      exact List.forall_mem_nil _
  | item :: rest, _, h => by
      simp only [ofItems?, Option.bind_eq_bind, Option.bind_eq_some_iff, Option.some.injEq] at h
      obtain ⟨setting, hsetting, settings, hsettings, rfl⟩ := h
      exact List.forall_mem_cons.mpr ⟨ofJson?_hasDistinctNames hsetting,
        ofItems?_haveDistinctNames hsettings⟩

theorem ofMembers?_hasDistinctNames : ∀ {members : List (JsonText × Json)}
    {settings : List (String × Setting)}, ofMembers? members = some settings →
      (table settings).HasDistinctNames
  | [], _, h => by
      cases h
      exact .table .nil (List.forall_mem_nil _)
  | (.text name, value) :: rest, _, h => by
      simp only [ofMembers?, Option.bind_eq_bind, Option.bind_eq_some_iff, Option.some.injEq] at h
      obtain ⟨setting, hsetting, settings, hsettings, rfl⟩ := h
      have hdistinct := ofMembers?_hasDistinctNames hsettings
      split
      next => exact hdistinct
      next hunused =>
        exact .cons (by simpa using hunused) (ofJson?_hasDistinctNames hsetting) hdistinct
  | (.unpairedSurrogate _, _) :: _, _, h | (.notUtf8, _) :: _, _, h => by cases h

end

theorem members_hasDistinctNames {setting : Setting} (h : setting.HasDistinctNames) :
    (table setting.members).HasDistinctNames := by
  cases h with
  | table hnames hvalues => exact .table hnames hvalues
  | absent | flag | integer | real | text | list => exact .table .nil (List.forall_mem_nil _)

end Setting

/-- A format of settings files. However a file is written, it gives every name of a table once. -/
structure SettingsFormat where
  /-- How the names of its files may end. -/
  endings : List String
  /-- The settings of a text, if it is well-formed. -/
  read? : List Char → Option (List (String × Setting))
  distinct : ∀ text settings, read? text = some settings →
    (Setting.table settings).HasDistinctNames

namespace SettingsFormat

/-- Settings in TOML. -/
def toml : SettingsFormat where
  endings := [".toml"]
  read? := Toml.parse
  distinct _ _ := Toml.parse_hasDistinctNames

/-- How deeply arrays and objects of a settings file may be nested. -/
def deepest : Nat := 127

/-- Settings in JSON. What is no object has none. -/
def json : SettingsFormat where
  endings := [".json"]
  read? text := do
    let json ← Json.parse (Utf8.encode text)
    if json.isReadable deepest then (Setting.ofJson? json).map Setting.members else none
  distinct text settings h := by
    obtain ⟨json, -, h⟩ := Option.bind_eq_some_iff.mp h
    split at h
    next =>
      obtain ⟨setting, hsetting, rfl⟩ := Option.map_eq_some_iff.mp h
      exact Setting.members_hasDistinctNames (Setting.ofJson?_hasDistinctNames hsetting)
    next => cases h

end SettingsFormat

/-- A text without the byte order mark that it may begin with. -/
def withoutByteOrderMark : List Char → List Char
  | c :: rest => if c.toNat == 0xFEFF then rest else c :: rest
  | [] => []

/-- The text of a settings file and its format: the file of that very name, which is in TOML, or the
first whose name goes on with an ending of a format. -/
def settingsText? (files : List (String × String)) (name : String)
    (formats : List SettingsFormat := [.toml, .json]) : Option (SettingsFormat × String) :=
  match files.lookup name with
  | some text => some (.toml, text)
  | none =>
      formats.findSome? fun format => format.endings.findSome? fun ending =>
        (files.lookup (name ++ ending)).map fun text => (format, text)

end SessionTokens
