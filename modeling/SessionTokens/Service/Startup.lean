import SessionTokens.Config.Plain
import SessionTokens.Config.VariablesFile
import SessionTokens.Database.Connect
import SessionTokens.Logging.Filter

/-! # Starting the reaper on its own

The reaper is also a program. It takes its settings from the variables and from two files of
variables, sets up the log and opens the database. Where no database is running, it always ends
with a report of what went wrong.
-/

namespace SessionTokens

/-- Why the reaper did not start. -/
inductive StartupError where
  | configurationNotLoaded (cause : ConfigError)
  | configurationInvalid (cause : ConfigError)
  | infrastructure (cause : InfrastructureError)
  | reaperDisabled
  deriving DecidableEq, Repr

/-- What lies behind a database failure. -/
def DatabaseError.causes : DatabaseError → List String
  | .configuration detail | .communication detail => [detail]
  | _ => []

/-- What lies behind a failure around the service. -/
def InfrastructureError.causes : InfrastructureError → List String
  | .database cause => cause.message :: cause.causes
  | _ => []

namespace StartupError

/-- The wording of a failed start. -/
def message : StartupError → String
  | .configurationNotLoaded _ => "Failed to load configuration"
  | .configurationInvalid _ => "Invalid configuration"
  | .infrastructure cause => cause.message
  | .reaperDisabled => "Reaper is disabled by configuration, nothing to do"

/-- What lies behind a failed start, from the nearest cause to the farthest one. -/
def causes : StartupError → List String
  | .configurationNotLoaded cause | .configurationInvalid cause => [cause.message]
  | .infrastructure cause => cause.causes
  | .reaperDisabled => []

/-- The causes of a report: one is only indented, several are numbered. -/
def causesText : List String → String
  | [] => ""
  | [cause] => s!"\n\nCaused by:\n    {cause}"
  | causes =>
      "\n\nCaused by:" ++
        String.join (causes.zipIdx.map fun (cause, index) => s!"\n    {index}: {cause}")

/-- A report of a failed start. -/
def report (error : StartupError) : String :=
  "Error: " ++ error.message ++ causesText error.causes ++ "\n"

end StartupError

/-- The variables with those of the files: the file of the detected environment comes before the
common one, and what is set already stays. -/
def startupVariables (vars : Variables) (files : List (String × String)) : Variables :=
  let own := (Environment.detect vars).variablesFile
  VariablesFile.loadNamed files (VariablesFile.loadNamed files vars own) ".env"

/-- The settings that a start goes on with to the database. -/
def prepareStart (vars : Variables) : Except StartupError AppConfig := do
  let config ← (AppConfig.ofVariables vars).mapError .configurationNotLoaded
  config.validate.mapError .configurationInvalid
  let _ ← (Logging.Filter.build (vars.value? "RUST_LOG") config.logging.level).mapError
    fun failure => .infrastructure failure.toInfrastructure
  if config.reaper.enabled then return config else throw .reaperDisabled

/-- How a start fails where no database is running. -/
def startFailure (vars : Variables) (files : List (String × String)) : StartupError :=
  match prepareStart (startupVariables vars files) with
  | .error failure => failure
  | .ok config =>
      .infrastructure ((poolFailure? config.database.url config.database.connectTimeout).getD
        (.database .poolTimedOut))

end SessionTokens
