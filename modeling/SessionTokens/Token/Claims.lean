import SessionTokens.Identity
import SessionTokens.Time.Instant
import SessionTokens.Token.Error

/-! # What an access token claims

Claims name their issuer, their holder and the span in which they hold. They are generic in how a
point of time is represented: the service works on instants, the written form on timestamps.
-/

namespace SessionTokens

open Time

/-- The text of a signed access token. -/
structure AccessToken where
  text : String
  deriving DecidableEq

/-- A debugging text that gives nothing of the token away. -/
def AccessToken.masked (_token : AccessToken) : String := "AccessToken(<redacted>)"

instance : Repr AccessToken := ⟨fun token _ => token.masked⟩

/-- The bytes of a signing key. -/
structure TokenSecret where
  bytes : List UInt8
  deriving DecidableEq

/-- A debugging text that gives nothing of the key away. -/
def TokenSecret.masked (_secret : TokenSecret) : String := "TokenSecret(<redacted>)"

instance : Repr TokenSecret := ⟨fun secret _ => secret.masked⟩

/-- What a token claims, with points of time of type `τ`. -/
structure ClaimsOver (τ : Type) where
  issuer : String
  subject : String
  audience : String
  role : String
  issuedAt : τ
  expiresAt : τ
  deriving DecidableEq, Repr

/-- What a token claims. -/
abbrev Claims := ClaimsOver Instant

namespace ClaimsOver

/-- The same claims over another representation of time. -/
def mapTime (f : τ → υ) (claims : ClaimsOver τ) : ClaimsOver υ where
  issuer := claims.issuer
  subject := claims.subject
  audience := claims.audience
  role := claims.role
  issuedAt := f claims.issuedAt
  expiresAt := f claims.expiresAt

end ClaimsOver

/-- The claims of a token that is issued now: it is for its holder, and by the issuer. -/
def Claims.forContext (issuer : String) (context : SecurityContext) (issuedAt : Instant)
    (lifetime : Duration) : Except TokenError Claims :=
  match issuedAt.add? lifetime with
  | none => .error .generationFailed
  | some expiresAt =>
      .ok {
        issuer
        subject := context.user.display
        audience := context.user.display
        role := context.role.name
        issuedAt
        expiresAt }

end SessionTokens
