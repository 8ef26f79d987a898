/-! # What can go wrong with a token

Errors are causes. Each cause has a code, a wording and, for a whole operation, a category that
says whose fault it is. Broken claims are reported together, as a list that is never empty.
-/

namespace SessionTokens

/-- Why an access token was not made or not accepted. -/
inductive TokenError where
  | generationFailed
  | claimsExtraction
  | malformedSubject (subject : String)
  | unsupportedRole (role : String)
  | expired
  deriving DecidableEq, Repr

namespace TokenError

/-- The code of a token error. -/
def code : TokenError → String
  | .generationFailed => "TOKEN_GENERATION_FAILED"
  | .claimsExtraction => "CLAIMS_EXTRACTION_ERROR"
  | .malformedSubject _ => "MALFORMED_SUBJECT"
  | .unsupportedRole _ => "UNSUPPORTED_ROLE_CLAIM"
  | .expired => "TOKEN_EXPIRED"

/-- The wording of a token error. -/
def message : TokenError → String
  | .generationFailed => "Token generation failed"
  | .claimsExtraction => "Failed to extract token claims"
  | .malformedSubject subject => "Malformed subject claim: " ++ subject
  | .unsupportedRole role => "Unsupported role claim: " ++ role
  | .expired => "Token expired"

end TokenError

/-- Why a refresh token was not accepted. -/
inductive RefreshTokenError where
  | invalid
  | alreadyRevoked
  | stillValid
  deriving DecidableEq, Repr

namespace RefreshTokenError

/-- The code of a refresh token error. -/
def code : RefreshTokenError → String
  | .invalid => "INVALID_REFRESH_TOKEN"
  | .alreadyRevoked => "REFRESH_TOKEN_ALREADY_REVOKED"
  | .stillValid => "REFRESH_TOKEN_STILL_VALID"

/-- The wording of a refresh token error. -/
def message : RefreshTokenError → String
  | .invalid => "Invalid refresh token"
  | .alreadyRevoked => "Refresh token already revoked"
  | .stillValid => "Refresh token is still valid"

end RefreshTokenError

/-- The rules that claims break, in the order of the rules. There is at least one. -/
structure Violations where
  first : TokenError
  rest : List TokenError
  deriving DecidableEq, Repr

namespace Violations

/-- The violations as a list. -/
def toList (v : Violations) : List TokenError := v.first :: v.rest

/-- The violations of a list, unless it is empty. -/
def ofList? : List TokenError → Option Violations
  | [] => none
  | first :: rest => some ⟨first, rest⟩

/-- All violations of both, those of the left first. -/
def append (v w : Violations) : Violations := ⟨v.first, v.rest ++ w.toList⟩

instance : Append Violations := ⟨append⟩

/-- Whether an error is among the violations. -/
def contains (v : Violations) (e : TokenError) : Bool := v.toList.contains e

/-- The wording of violations. -/
def message (v : Violations) : String :=
  "Invalid claims: " ++ String.intercalate "; " (v.toList.map TokenError.message)

@[simp] theorem toList_append (v w : Violations) : (v ++ w).toList = v.toList ++ w.toList := rfl

theorem toList_ne_nil (v : Violations) : v.toList ≠ [] := List.cons_ne_nil _ _

@[simp] theorem ofList?_toList (v : Violations) : ofList? v.toList = some v := rfl

end Violations

/-- Whose fault a failed operation is. -/
inductive ErrorCategory where
  | unauthorized
  | badRequest
  | internal
  deriving DecidableEq, Repr

/-- The name of an error category. -/
def ErrorCategory.name : ErrorCategory → String
  | .unauthorized => "Unauthorized"
  | .badRequest => "BadRequest"
  | .internal => "Internal"

/-- Why an operation on tokens failed. -/
inductive DomainError where
  | token (cause : TokenError)
  | invalidClaims (violations : Violations)
  | refreshToken (cause : RefreshTokenError)
  | storage (detail : String)
  | cache (detail : String)
  | internal (detail : String)
  deriving DecidableEq, Repr

namespace DomainError

/-- The code of a failure. -/
def code : DomainError → String
  | .token cause => cause.code
  | .invalidClaims _ => "INVALID_CLAIMS"
  | .refreshToken cause => cause.code
  | .storage _ => "STORAGE_ERROR"
  | .cache _ => "CACHE_ERROR"
  | .internal _ => "INTERNAL_ERROR"

/-- The wording of a failure. -/
def message : DomainError → String
  | .token cause => cause.message
  | .invalidClaims violations => violations.message
  | .refreshToken cause => cause.message
  | .storage detail => "Storage error: " ++ detail
  | .cache detail => "Cache error: " ++ detail
  | .internal detail => "Internal error: " ++ detail

/-- Whose fault a failure is: bad tokens and claims leave the caller unauthorized. -/
def category : DomainError → ErrorCategory
  | .token _ | .invalidClaims _ => .unauthorized
  | .refreshToken _ => .badRequest
  | .storage _ | .cache _ | .internal _ => .internal

/-- The token errors behind a failure. -/
def causes : DomainError → List TokenError
  | .token cause => [cause]
  | .invalidClaims violations => violations.toList
  | _ => []

end DomainError

end SessionTokens
