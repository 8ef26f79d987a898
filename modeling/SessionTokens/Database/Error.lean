import SessionTokens.Token.Error

/-! # What can go wrong around the token service

Failures of the database and of the configuration. Seen from the domain, a failure of the database
or a corrupt record is a failure of storage; the others are internal.
-/

namespace SessionTokens

/-- Why the database did not answer. -/
inductive DatabaseError where
  | configuration (detail : String)
  | communication (detail : String)
  | poolTimedOut
  | poolClosed
  | rowNotFound
  | columnNotFound (name : String)
  | protocol (detail : String)
  deriving DecidableEq, Repr

/-- The wording of a database failure. -/
def DatabaseError.message : DatabaseError → String
  | .configuration detail => "error with configuration: " ++ detail
  | .communication detail => "error communicating with database: " ++ detail
  | .poolTimedOut => "pool timed out while waiting for an open connection"
  | .poolClosed => "attempted to acquire a connection on a closed pool"
  | .rowNotFound => "no rows returned by a query that expected to return at least one row"
  | .columnNotFound name => "no column found for name: " ++ name
  | .protocol detail => "encountered unexpected or invalid data: " ++ detail

/-- Why something around the token service failed. -/
inductive InfrastructureError where
  | database (cause : DatabaseError)
  | configuration (detail : String)
  | corruptRecord (detail : String)
  | general (detail : String)
  deriving DecidableEq, Repr

namespace InfrastructureError

/-- The wording of a failure. -/
def message : InfrastructureError → String
  | .database cause => "Database error: " ++ cause.message
  | .configuration detail => "Configuration error: " ++ detail
  | .corruptRecord detail => "Corrupt record: " ++ detail
  | .general detail => "Infrastructure error: " ++ detail

/-- A failure as the domain sees it. -/
def toDomain (error : InfrastructureError) : DomainError :=
  match error with
  | .database _ | .corruptRecord _ => .storage error.message
  | .configuration detail | .general detail => .internal detail

end InfrastructureError

end SessionTokens
