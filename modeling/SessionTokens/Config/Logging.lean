import SessionTokens.Config.Environment

/-! # Settings of the log -/

namespace SessionTokens

/-- How log lines are laid out. -/
inductive LogFormat where
  | json
  | pretty
  | compact
  deriving DecidableEq, Repr

namespace LogFormat

/-- The name of a format. -/
def name : LogFormat → String
  | .json => "json"
  | .pretty => "pretty"
  | .compact => "compact"

/-- The format of a name, which has to match exactly. -/
def ofName? : String → Option LogFormat
  | "json" => some .json
  | "pretty" => some .pretty
  | "compact" => some .compact
  | _ => none

theorem ofName?_name (format : LogFormat) : ofName? format.name = some format := by
  cases format <;> rfl

end LogFormat

/-- Settings of the log. -/
structure LoggingConfig where
  /-- The filter that holds unless the variables name another one. -/
  level : String := "info"
  format : LogFormat := .pretty
  colored : Bool := true
  /-- Whether a line tells where in the program it was written. -/
  sourceLocation : Bool := false
  deriving DecidableEq, Repr

/-- The settings that suit an environment. -/
def LoggingConfig.forEnvironment : Environment → LoggingConfig
  | .development => { level := "debug", sourceLocation := true }
  | .staging => { level := "info", format := .json, colored := false }
  | .production => { level := "warn", format := .json, colored := false }

end SessionTokens
