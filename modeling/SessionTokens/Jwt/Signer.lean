import SessionTokens.Crypto.Hmac
import SessionTokens.Json.Parser
import SessionTokens.Json.Printer
import SessionTokens.Jwt.Base64Url
import SessionTokens.Jwt.Header
import SessionTokens.Text.Split
import SessionTokens.Token.Claims

/-! # Signed access tokens

A token is a header, a payload and a signature, each in URL-safe base64 and joined by dots. The
signature is the HMAC over SHA-512 of header and payload. Claims are extracted from a token only if
its signature is, character for character, the one that signing would have written, and its header
and payload follow the format; whatever else is wrong, the one error is that extraction failed.
-/

namespace SessionTokens.Jwt

open Json Text Time

/-- Text in URL-safe base64. -/
def encodeText (text : List Char) : List Char := Base64Url.encode (Utf8.encode text)

/-- The signature over the part of a token before its last dot. -/
def signature (secret : TokenSecret) (message : List Char) : List Char :=
  Base64Url.encode (Crypto.Hmac.sha512 secret.bytes (Utf8.encode message))

/-- The header of every token that is signed here. -/
def header : Json := .ofMembers [("typ", .ofString "JWT"), ("alg", .ofString "HS512")]

/-- The payload of claims. Instants are written in whole seconds. -/
def payload (claims : Claims) : Json := .ofMembers [
  ("iss", .ofString claims.issuer),
  ("sub", .ofString claims.subject),
  ("aud", .ofString claims.audience),
  ("iat", .ofInt claims.issuedAt.second),
  ("exp", .ofInt claims.expiresAt.second),
  ("role", .ofString claims.role)]

/-- The signed part of a token. -/
def message (claims : Claims) : List Char :=
  encodeText (render header) ++ '.' :: encodeText (render (payload claims))

/-- The signed token of claims. -/
def sign (claims : Claims) (secret : TokenSecret) : AccessToken :=
  let message := message claims
  ⟨String.ofList (message ++ '.' :: signature secret message)⟩

/-- Reads an integer that names a representable second. -/
def readSecond : Reader Instant := fun json =>
  (readInt .signed64 json).bind Instant.ofSeconds?

/-- How many digits of an exponent are read before it exceeds 31 bits. -/
def exponentDigitsRead (value : Nat) : List Nat → Nat
  | [] => 0
  | digit :: rest =>
      if 2147483647 < value * 10 + digit then 1 else 1 + exponentDigitsRead (value * 10 + digit) rest

/-- Whether reading a number reaches its end. A number other than zero whose positive exponent
exceeds 31 bits is given up at the digit where it does. -/
def isReadToItsEnd (n : JsonNumber) : Bool :=
  match n.exponent with
  | some (false, digits) =>
      (n.whole == 0 && (n.fraction.getD []).all (· == 0)) ||
        exponentDigitsRead 0 digits == digits.length
  | _ => true

/-- Whether a not-before claim can be passed over, which is so if reading it reaches its end although
nothing comes of that. An array or an object is given up where it is not over at once, and a string
at its first surrogate without its other half; where that is the last thing in the string, the quote
after it is taken for what should have followed. -/
def isPassable : Json → Bool
  | .null | .bool _ => true
  | .number n => isReadToItsEnd n
  | .string (.unpairedSurrogate breaksOff) => breaksOff
  | .string _ => true
  | .array items => items.isEmpty
  | .object members => members.isEmpty

/-- Reads the claims of a payload: an object with each of the six claims exactly once. -/
def readPayload : Reader Claims
  | .object members => do
      let f ← objectFields ["iss", "sub", "aud", "iat", "exp", "role", "nbf"] members
      let issuer ← f.required "iss" readText
      let subject ← f.required "sub" readText
      let audience ← f.required "aud" readText
      let issuedAt ← f.required "iat" readSecond
      let expiresAt ← f.required "exp" readSecond
      let role ← f.required "role" readText
      if (f.get? "nbf").all isPassable then
        some { issuer, subject, audience, role, issuedAt, expiresAt }
      else none
  | _ => none

/-- The value of a part of a token: strict base64 of the bytes of a JSON value. -/
def decodePart (part : List Char) : Option Json := (Base64Url.decode part).bind Json.parse

/-- The claims of a token that was signed with a secret, if it was. -/
def extract? (token : List Char) (secret : TokenSecret) : Option Claims := do
  let (message, given) ← splitLast '.' token
  let (head, body) ← splitLast '.' message
  let algorithm ← (decodePart head).bind readHeader
  if algorithm = .hs512 ∧ given = signature secret message then
    (decodePart body).bind readPayload
  else none

/-- The claims of a token that was signed with a secret. -/
def extract (token : AccessToken) (secret : TokenSecret) : Except TokenError Claims :=
  match extract? token.text.toList secret with
  | some claims => .ok claims
  | none => .error .claimsExtraction

end SessionTokens.Jwt
