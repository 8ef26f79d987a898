import SessionTokens.Config.SettingsFile

/-! # Configuration in layers

Three layers make a configuration: the detected environment, the settings file of that environment,
and the variables whose names begin with a common stem. A later layer replaces single settings of an
earlier one and leaves the others. The result has to be valid.
-/

namespace SessionTokens

open Text

namespace Setting

/-- Whether a character may be part of a name in a path. -/
def isNameChar (c : Char) : Bool :=
  c.isAlphanum || c == ' ' || c == '_' || c == '-'

/-- Takes a name in a path. -/
def takeName (text : List Char) : Option (String × List Char) :=
  match text.takeWhile isNameChar with
  | [] => none
  | name => some (String.ofList name, text.dropWhile isNameChar)

/-- Takes an index after its opening bracket. -/
def takeIndex (text : List Char) : Option (Int × List Char) :=
  let isBlank (c : Char) : Bool := c == ' ' || c == '\t'
  let text := text.dropWhile isBlank
  let (sign, digits) := match text with
    | '-' :: rest => (['-'], rest)
    | rest => ([], rest)
  let number := digits.takeWhile isDigit
  match readInteger .signed64 (sign ++ number),
    (digits.drop number.length).dropWhile isBlank with
  | .ok index, ']' :: rest => some (index, rest)
  | _, _ => none

/-- Takes the further steps of a path to its end. The fuel bounds their number. -/
def takeSteps : Nat → List Char → Option (List Step)
  | _, [] => some []
  | fuel + 1, '.' :: rest =>
      (takeName rest).bind fun (name, rest) => (takeSteps fuel rest).map (.child name :: ·)
  | fuel + 1, '[' :: rest =>
      (takeIndex rest).bind fun (index, rest) => (takeSteps fuel rest).map (.index index :: ·)
  | _, _ => none

/-- The path that a key spells. A key that spells no path is a name as a whole. -/
def pathOf (key : String) : List Step :=
  let path : Option (List Step) := do
    let (name, rest) ← takeName key.toList
    let steps ← takeSteps rest.length rest
    some (.child name :: steps)
  path.getD [.child key]

/-- Assigns values to the paths that their keys spell, one after the other. -/
def assignAll? : List (String × Setting) → Setting → Option Setting
  | [], root => some root
  | (key, value) :: rest, root => (assign? value (pathOf key) root).bind (assignAll? rest)

end Setting

/-- How the names of the variables begin that stand for settings. -/
def variableStem : List Char := ['p', 's', '_', '_']

/-- A text in which two underscores are a point. -/
def pointed : List Char → List Char
  | '_' :: '_' :: rest => '.' :: pointed rest
  | c :: rest => c :: pointed rest
  | [] => []

/-- The key of the setting that a variable stands for. -/
def settingKey? (name : String) : Option String :=
  let name := fold name.toList
  if variableStem.isPrefixOf name then
    some (String.ofList (pointed (name.drop variableStem.length)))
  else none

/-- The settings that variables stand for. -/
def Variables.settings (vars : Variables) : List (String × Setting) :=
  vars.filterMap fun (name, value) =>
    (settingKey? name).map fun key => (key, Setting.ofText value)

/-- The layers of a configuration, merged. -/
def mergedSettings? (environment : Environment) (file : List (String × Setting))
    (vars : Variables) : Option Setting :=
  let detected := Setting.put "environment" (.text environment.name) (.table [])
  (Setting.assignAll? file detected).bind (Setting.assignAll? vars.settings)

/-- The settings of a file, which may be missing. -/
def fileSettings (files : List (String × String)) (name : String)
    (formats : List SettingsFormat := [.toml, .json]) :
    Except ConfigError (List (String × Setting)) :=
  match settingsText? files name formats with
  | none => .ok []
  | some (format, text) =>
      match format.read? (withoutByteOrderMark text.toList) with
      | none => .error .unreadable
      | some settings => .ok settings

/-- The configuration of the settings file and the variables. -/
def AppConfig.load (vars : Variables) (files : List (String × String))
    (formats : List SettingsFormat := [.toml, .json]) : Except ConfigError AppConfig := do
  let environment := Environment.detect vars
  let file ← fileSettings files environment.settingsFile formats
  match mergedSettings? environment file vars with
  | none => .error .impossiblePlace
  | some settings =>
      match AppConfig.read .settings settings with
      | none => .error .unreadable
      | some config =>
          config.validate
          return config

end SessionTokens
