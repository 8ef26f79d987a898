import SessionTokens.Text.Fold
import SessionTokens.Text.Integer

/-! # Log levels

A level says which events are logged: those of its own severity and of every graver one.
-/

namespace SessionTokens.Logging

open Text

/-- Which events pass a directive. -/
inductive Level where
  | off
  | error
  | warn
  | info
  | debug
  | trace
  deriving DecidableEq, Repr

namespace Level

/-- The name of a level. -/
def name : Level → String
  | .off => "off"
  | .error => "error"
  | .warn => "warn"
  | .info => "info"
  | .debug => "debug"
  | .trace => "trace"

/-- The level of a number. -/
def ofNumber? : Int → Option Level
  | 0 => some .off
  | 1 => some .error
  | 2 => some .warn
  | 3 => some .info
  | 4 => some .debug
  | 5 => some .trace
  | _ => none

/-- The level of a name in any case. -/
def ofName? (text : List Char) : Option Level :=
  [off, error, warn, info, debug, trace].find? fun level =>
    equalIgnoringAsciiCase level.name.toList text

/-- Reads a level: a name in any case, or a number. -/
def read? (text : List Char) : Option Level :=
  match (readInteger .unsigned64 text).toOption.bind ofNumber? with
  | some level => some level
  | none => ofName? text

end Level

end SessionTokens.Logging
