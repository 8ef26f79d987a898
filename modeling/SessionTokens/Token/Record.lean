import SessionTokens.Text.Hexadecimal
import SessionTokens.Token.Claims

/-! # What is kept about a refresh token

A refresh token is an opaque text. Its record says for whom it was issued, until when it may be
used and whether it was revoked; revocation is recorded as the time at which it happened.
-/

namespace SessionTokens

open Time

/-- The text of a refresh token. -/
structure RefreshToken where
  text : String
  deriving DecidableEq

namespace RefreshToken

/-- A debugging text that gives nothing of the token away. -/
def masked (_token : RefreshToken) : String := "RefreshToken(<redacted>)"

instance : Repr RefreshToken := ⟨fun token _ => token.masked⟩

/-- The refresh token of a hundred and twenty-eight random bits, as the digits of a random UUID:
the thirteenth digit is the version 4 and the seventeenth holds the variant. -/
def ofRandom (bits : Nat) : RefreshToken :=
  let digits := (List.range 32).map fun place =>
    let digit := bits / Nat.pow 16 (31 - place) % 16
    if place = 12 then '4'
    else Text.hexChar (if place = 16 then 8 + digit % 4 else digit)
  ⟨String.ofList digits⟩

end RefreshToken

/-- Whether a refresh token may still be used. -/
inductive StatusOver (τ : Type) where
  | active
  | revoked (time : τ)
  deriving DecidableEq, Repr

/-- Whether a refresh token may still be used. -/
abbrev Status := StatusOver Instant

/-- What is kept about a refresh token, with points of time of type `τ`. -/
structure RecordOver (τ : Type) where
  token : RefreshToken
  user : UserId
  role : Role
  issuedAt : τ
  expiresAt : τ
  revokedAt : Option τ
  deriving DecidableEq, Repr

/-- What is kept about a refresh token. -/
abbrev Record := RecordOver Instant

namespace RecordOver

/-- Whether the token was revoked, and when. -/
def status (record : RecordOver τ) : StatusOver τ :=
  match record.revokedAt with
  | none => .active
  | some time => .revoked time

/-- Whether the token was not revoked. -/
def isActive (record : RecordOver τ) : Bool := record.revokedAt.isNone

/-- Whom the token acts for. -/
def context (record : RecordOver τ) : SecurityContext := ⟨record.user, record.role⟩

end RecordOver

namespace Record

/-- The record of a fresh token that is issued now. -/
def issue (token : RefreshToken) (context : SecurityContext) (now : Instant)
    (lifetime : Duration) : Except TokenError Record :=
  match now.add? lifetime with
  | none => .error .generationFailed
  | some expiresAt =>
      .ok {
        token
        user := context.user
        role := context.role
        issuedAt := now
        expiresAt
        revokedAt := none }

/-- Whether the token has expired: it holds through the instant of its expiry. -/
def isExpiredAt (record : Record) (now : Instant) : Bool := decide (record.expiresAt < now)

/-- Whether a sweep at this time finds the token past its use: it is so from its expiry on. -/
def isOverdueAt (record : Record) (now : Instant) : Bool := decide (record.expiresAt ≤ now)

/-- The record after a revocation. -/
def revoke (record : Record) (now : Instant) : Record := { record with revokedAt := some now }

end Record

/-- A refresh token with the access token that was made beside it. -/
structure TokenPairOver (τ : Type) where
  refreshToken : RefreshToken
  accessToken : AccessToken
  accessExpiresAt : τ
  refreshExpiresAt : τ
  deriving DecidableEq, Repr

/-- A refresh token with the access token that was made beside it. -/
abbrev TokenPair := TokenPairOver Instant

end SessionTokens
