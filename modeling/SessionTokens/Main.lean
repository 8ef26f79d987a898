import SessionTokens.Service.Startup

/-! # The reaper as a program

The program collects the variables and the files that a start looks at, and reports how the start
fails where no database is running.
-/

open SessionTokens

/-- The variables that a start looks at. -/
def startupVariableNames : List String := [
  "PS_ENV", "ENVIRONMENT", "RUST_LOG", "LOG_LEVEL", "JWT_ISSUER", "JWT_SECRET",
  "JWT_ACCESS_TOKEN_EXPIRY", "JWT_REFRESH_TOKEN_EXPIRY", "JWT_REFRESH_TOKEN_DELETION_GRACE",
  "DATABASE_URL", "DATABASE_MAX_CONNECTIONS", "DATABASE_CONNECT_TIMEOUT",
  "VERIFICATION_CACHE_ENABLED", "VERIFICATION_CACHE_MAX_BYTES", "REAPER_ENABLED",
  "REAPER_INTERVAL_SECONDS"]

/-- The variables of the process that a start looks at. -/
def collectVariables : IO Variables := do
  let mut vars : Variables := []
  for name in startupVariableNames do
    if let some value ← IO.getEnv name then
      vars := vars ++ [(name, value)]
  return vars

/-- The text of a file, if it can be read. -/
def readIfPresent (name : String) : IO (Option String) := do
  try
    return some (← IO.FS.readFile name)
  catch _ =>
    return none

/-- The files of variables that a start looks at. -/
def collectFiles (vars : Variables) : IO (List (String × String)) := do
  let mut files : List (String × String) := []
  for name in [(Environment.detect vars).variablesFile, ".env"] do
    if let some text ← readIfPresent name then
      files := files ++ [(name, text)]
  return files

/-- Reports on the standard error stream how the start failed. -/
def main : IO UInt32 := do
  let vars ← collectVariables
  let files ← collectFiles vars
  (← IO.getStderr).putStr (startFailure vars files).report
  return 1
