import SessionTokens.Service.Script
import SessionTokens.Token.Validation

/-! # Issuing, verifying and rotating tokens

A login is answered with a pair of tokens. The access token is verified from the cache or by its
signature and claims; a failing cache costs nothing but time. The refresh token buys one new pair:
it is revoked before anything else happens, and one that had lapsed stays revoked without a pair.
-/

namespace SessionTokens

open Time

/-- Who issues access tokens, with which key and for how long. -/
structure ServiceConfig where
  issuer : String
  secret : TokenSecret
  accessLifetime : Duration
  deriving DecidableEq, Repr

namespace TokenService

/-- Ends a conversation with a token error. -/
def failing (cause : TokenError) : Script (Except DomainError α) := .done (.error (.token cause))

/-- Stores what a login was given and answers it. Only the refresh token store can refuse; a cache
that does not take the access token is ignored. Neither waits for the other. -/
def deliver (context : SecurityContext) (claims : Claims) (accessToken : AccessToken) :
    Script (Except DomainError TokenPair) :=
  .insertAndRemember context accessToken claims.expiresAt fun inserted _ =>
    .done <| match inserted with
      | .error failure => .error failure
      | .ok record =>
          .ok {
            refreshToken := record.token
            accessToken
            accessExpiresAt := claims.expiresAt
            refreshExpiresAt := record.expiresAt }

/-- Issues a pair of tokens. However signing fails, the failure is that no token was made. -/
def generate (config : ServiceConfig) (context : SecurityContext) :
    Script (Except DomainError TokenPair) :=
  .readClock fun issuedAt =>
    match Claims.forContext config.issuer context issuedAt config.accessLifetime with
    | .error cause => failing cause
    | .ok claims =>
        .sign claims config.secret fun
          | .error _ => failing .generationFailed
          | .ok accessToken => deliver context claims accessToken

/-- Verifies a token by its signature and its claims, and has it remembered. -/
def verifyAfresh (config : ServiceConfig) (token : AccessToken) :
    Script (Except DomainError SecurityContext) :=
  .extract token config.secret fun
    | .error _ => failing .claimsExtraction
    | .ok claims =>
        .readClock fun now =>
          match claims.validate now with
          | .invalid violations => .done (.error (.invalidClaims violations))
          | .valid context =>
              .remember token context claims.expiresAt fun _ => .done (.ok context)

/-- Verifies a token. A cache that does not answer is a cache that knows nothing. -/
def verify (config : ServiceConfig) (token : AccessToken) :
    Script (Except DomainError SecurityContext) :=
  .consult token fun
    | .ok (some context) => .done (.ok context)
    | _ => verifyAfresh config token

/-- Goes on with a refresh token that was just revoked: it buys a pair unless it had expired by
then. -/
def redeem (config : ServiceConfig) (record : Record) (revokedAt : Instant) :
    Script (Except DomainError TokenPair) :=
  if record.isExpiredAt revokedAt then failing .expired else generate config record.context

/-- Rotates a refresh token into a new pair. -/
def refresh (config : ServiceConfig) (token : RefreshToken) :
    Script (Except DomainError TokenPair) :=
  .revoke token fun
    | .error failure => .done (.error failure)
    | .ok record =>
        match record.revokedAt with
        | some revokedAt => redeem config record revokedAt
        | none => .readClock (redeem config record)

/-- Revokes a refresh token without a replacement. -/
def revoke (token : RefreshToken) : Script (Except DomainError RefreshToken) :=
  .revoke token fun
    | .error failure => .done (.error failure)
    | .ok record => .done (.ok record.token)

end TokenService

end SessionTokens
