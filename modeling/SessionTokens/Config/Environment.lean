import SessionTokens.Text.Fold

/-! # Deployment environments

A deployment is for development, staging or production. Which of them it is, is told by one of two
variables; a value that names no environment is passed over in favour of development.
-/

namespace SessionTokens

open Text

/-- Variables by name. -/
abbrev Variables := List (String × String)

/-- The value of a variable that is set. -/
def Variables.value? (vars : Variables) (name : String) : Option String :=
  List.lookup name vars

/-- What a deployment is for. -/
inductive Environment where
  | development
  | staging
  | production
  deriving DecidableEq, Repr, Inhabited

namespace Environment

/-- The name of an environment. -/
def name : Environment → String
  | .development => "development"
  | .staging => "staging"
  | .production => "production"

/-- The environment of a name, which has to match exactly. -/
def ofName? : String → Option Environment
  | "development" => some .development
  | "staging" => some .staging
  | "production" => some .production
  | _ => none

/-- Reads a name or a short name in any case. -/
def read? (text : String) : Option Environment :=
  match String.ofList (fold text.toList) with
  | "dev" => some .development
  | "stage" | "test" => some .staging
  | "prod" => some .production
  | name => ofName? name

/-- The wording for a text that names no environment. -/
def unknownMessage (text : String) : String := "Invalid environment: " ++ text

/-- The file with the settings of an environment. -/
def settingsFile (environment : Environment) : String := s!"config.{environment.name}.toml"

/-- The file with the variables of an environment. -/
def variablesFile (environment : Environment) : String := s!".env.{environment.name}"

/-- The environment that the variables tell. The first variable that is set decides. -/
def detect (vars : Variables) : Environment :=
  ((vars.value? "PS_ENV" <|> vars.value? "ENVIRONMENT").bind read?).getD .development

theorem ofName?_name (environment : Environment) : ofName? environment.name = some environment := by
  cases environment <;> rfl

end Environment

end SessionTokens
