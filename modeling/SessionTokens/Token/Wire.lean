import SessionTokens.Json.Fields
import SessionTokens.Json.Parser
import SessionTokens.Json.Printer
import SessionTokens.Time.Timestamp
import SessionTokens.Token.Record

/-! # Tokens, claims and records in JSON

Every type has one written form, an object with a member per field. Points of time are written as
timestamps, so that a leap second survives.
-/

namespace SessionTokens.Wire

open Json Time

/-- A type with a written form and a reader of it. -/
class Codec (α : Type) where
  toJson : α → Json
  ofJson? : Reader α

export Codec (toJson ofJson?)

instance : Codec String where
  toJson := .ofString
  ofJson? := readText

instance : Codec Timestamp where
  toJson t := .ofString (String.ofList t.write)
  ofJson? json := (readText json).bind fun text => Timestamp.read text.toList

instance : Codec UserId where
  toJson user := .ofInt user.value
  ofJson? json := (readInt .signed64 json).bind UserId.ofInt?

instance : Codec Role where
  toJson role := .ofString role.name
  ofJson? := readUnit Role.ofName?

instance : Codec AccessToken where
  toJson token := .ofString token.text
  ofJson? json := (readText json).map AccessToken.mk

instance : Codec RefreshToken where
  toJson token := .ofString token.text
  ofJson? json := (readText json).map RefreshToken.mk

instance : Codec SecurityContext where
  toJson context := .ofMembers [
    ("user_id", toJson context.user),
    ("role", toJson context.role)]
  ofJson? json := do
    let f ← fields ["user_id", "role"] json
    let user ← f.required "user_id" ofJson?
    let role ← f.required "role" ofJson?
    some { user, role }

/-- An active status is a name of its own; a revoked one holds the time of revocation. -/
instance : Codec (StatusOver Timestamp) where
  toJson
    | .active => .ofString "Active"
    | .revoked time => .ofMembers [("Revoked", toJson time)]
  ofJson?
    | .string (.text "Active") => some .active
    | .object [(.text "Active", .null)] => some .active
    | .object [(.text "Revoked", time)] => (ofJson? time).map .revoked
    | _ => none

instance : Codec (ClaimsOver Timestamp) where
  toJson claims := .ofMembers [
    ("issuer", toJson claims.issuer),
    ("subject", toJson claims.subject),
    ("audience", toJson claims.audience),
    ("role", toJson claims.role),
    ("issued_at", toJson claims.issuedAt),
    ("expires_at", toJson claims.expiresAt)]
  ofJson? json := do
    let f ← fields ["issuer", "subject", "audience", "role", "issued_at", "expires_at"] json
    let issuer ← f.required "issuer" ofJson?
    let subject ← f.required "subject" ofJson?
    let audience ← f.required "audience" ofJson?
    let role ← f.required "role" ofJson?
    let issuedAt ← f.required "issued_at" ofJson?
    let expiresAt ← f.required "expires_at" ofJson?
    some { issuer, subject, audience, role, issuedAt, expiresAt }

instance : Codec (RecordOver Timestamp) where
  toJson record := .ofMembers [
    ("token", toJson record.token),
    ("user_id", toJson record.user),
    ("role", toJson record.role),
    ("issued_at", toJson record.issuedAt),
    ("expires_at", toJson record.expiresAt),
    ("revoked_at", match record.revokedAt with
      | none => .null
      | some time => toJson time)]
  ofJson? json := do
    let f ←
      fields ["token", "user_id", "role", "issued_at", "expires_at", "revoked_at"] json
    let token ← f.required "token" ofJson?
    let user ← f.required "user_id" ofJson?
    let role ← f.required "role" ofJson?
    let issuedAt ← f.required "issued_at" ofJson?
    let expiresAt ← f.required "expires_at" ofJson?
    let revokedAt ← f.nullable "revoked_at" ofJson?
    some { token, user, role, issuedAt, expiresAt, revokedAt }

instance : Codec (TokenPairOver Timestamp) where
  toJson pair := .ofMembers [
    ("refresh_token", toJson pair.refreshToken),
    ("access_token", toJson pair.accessToken),
    ("access_expires_at", toJson pair.accessExpiresAt),
    ("refresh_expires_at", toJson pair.refreshExpiresAt)]
  ofJson? json := do
    let f ← fields
      ["refresh_token", "access_token", "access_expires_at", "refresh_expires_at"] json
    let refreshToken ← f.required "refresh_token" ofJson?
    let accessToken ← f.required "access_token" ofJson?
    let accessExpiresAt ← f.required "access_expires_at" ofJson?
    let refreshExpiresAt ← f.required "refresh_expires_at" ofJson?
    some { refreshToken, accessToken, accessExpiresAt, refreshExpiresAt }

/-- The written form of a value, as text. -/
def write [Codec α] (value : α) : String := String.ofList (render (toJson value))

/-- Reads a value from a text. -/
def read? (α : Type) [Codec α] (text : String) : Option α :=
  (parse (Text.Utf8.encode text.toList)).bind ofJson?

end SessionTokens.Wire
