import SessionTokens.Crypto.Sha2
import SessionTokens.Database.Error
import SessionTokens.Text.Utf8
import SessionTokens.Token.Record

/-! # The refresh token store behind a database

A database never sees the text of a refresh token, only a digest of it. What an operation can decide
without asking the database is decided first; everything else needs an answer.
-/

namespace SessionTokens

open Time

/-- The key under which a database keeps the record of a token. -/
def RefreshToken.digest (token : RefreshToken) : String :=
  String.ofList <| Text.hexOfBytes <|
    Crypto.Sha2.digest Crypto.Sha2.sha256 (Text.Utf8.encode token.text.toList)

/-- What a store behind a database is asked to do. -/
inductive StoreRequest where
  | insert (context : SecurityContext)
  | find (token : RefreshToken)
  | revoke (token : RefreshToken)
  | prolong (token : RefreshToken)
  | revokeExpired
  | deleteExpired (span : Duration)
  deriving Repr

/-- What becomes of a request before the database is asked. -/
inductive StoreDecision where
  /-- A sweep that finds nothing. -/
  | nothingToDelete
  | fails (cause : DomainError)
  /-- The database has to answer. -/
  | ask
  deriving DecidableEq, Repr

/-- Decides a request as far as that is possible without the database: a record needs an expiry,
and a sweep a cutoff. -/
def StoreRequest.decide (lifetime : Duration) (now : Instant) : StoreRequest → StoreDecision
  | .insert _ => if (now.add? lifetime).isSome then .ask else .fails (.token .generationFailed)
  | .deleteExpired span => if (now.sub? span).isSome then .ask else .nothingToDelete
  | _ => .ask

/-- The outcome of a request whose database does not answer, for a given reason. A sweep that finds
nothing is the only success. -/
def StoreRequest.outcome (lifetime : Duration) (reason : DatabaseError) (now : Instant)
    (request : StoreRequest) : Except DomainError Nat :=
  match request.decide lifetime now with
  | .nothingToDelete => .ok 0
  | .fails cause => .error cause
  | .ask => .error (InfrastructureError.toDomain (.database reason))

end SessionTokens
