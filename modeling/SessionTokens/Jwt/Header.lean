import SessionTokens.Json.Fields
import SessionTokens.Json.Strict

/-! # The header of a signed token

A header names the algorithm of the signature. Its other registered fields have no effect, but they
have to be of their type; a key that it embeds has to be a JSON Web Key of a known kind.
-/

namespace SessionTokens.Jwt

open Json

/-- The signature algorithms of JSON Web Tokens. -/
inductive Algorithm where
  | hs256 | hs384 | hs512
  | es256 | es384
  | rs256 | rs384 | rs512
  | ps256 | ps384 | ps512
  | edDSA
  deriving DecidableEq, Repr

namespace Algorithm

/-- The registered name of an algorithm. -/
def name : Algorithm → String
  | .hs256 => "HS256" | .hs384 => "HS384" | .hs512 => "HS512"
  | .es256 => "ES256" | .es384 => "ES384"
  | .rs256 => "RS256" | .rs384 => "RS384" | .rs512 => "RS512"
  | .ps256 => "PS256" | .ps384 => "PS384" | .ps512 => "PS512"
  | .edDSA => "EdDSA"

/-- Every algorithm. -/
def all : List Algorithm :=
  [.hs256, .hs384, .hs512, .es256, .es384, .rs256, .rs384, .rs512, .ps256, .ps384, .ps512, .edDSA]

/-- The algorithm of a registered name. -/
def ofName? (name : String) : Option Algorithm := all.find? (·.name == name)

end Algorithm

/-- The names of the algorithms that a key may be for: those of signatures, and those that encrypt
another key. -/
def keyAlgorithms : List String :=
  Algorithm.all.map Algorithm.name ++ ["RSA1_5", "RSA-OAEP", "RSA-OAEP-256"]

/-- Reads the curve of a key. -/
def readCurve : Reader Unit := fun json =>
  (readUnitName json).bind fun name =>
    if ["P-256", "P-384", "P-521", "Ed25519"].contains name then some () else none

/-- Reads a text that has no effect. -/
def skipText : Reader Unit := fun json => (readText json).map fun _ => ()

/-- Reads an array of texts that has no effect. -/
def skipTexts : Reader Unit := fun json => (readArray readText json).map fun _ => ()

/-- The kinds of keys that a header may embed, each with its name and its required fields. -/
def keyKinds : List (String × List (String × Reader Unit)) := [
  ("EC", [("crv", readCurve), ("x", skipText), ("y", skipText)]),
  ("RSA", [("n", skipText), ("e", skipText)]),
  ("oct", [("k", skipText)]),
  ("OKP", [("crv", readCurve), ("x", skipText)])]

/-- The name of a variant whose contents are null or an object without members. -/
def readHollowName : Reader String
  | .object [(.text name, .object [])] => some name
  | json => readUnitName json

/-- Reads the algorithm that a key is for. -/
def readKeyAlgorithm : Reader Unit := fun json =>
  (readHollowName json).bind fun name => if keyAlgorithms.contains name then some () else none

/-- The optional fields that every key may have. -/
def commonKeyFields : List (String × Reader Unit) := [
  ("use", skipText), ("key_ops", skipTexts), ("alg", readKeyAlgorithm), ("kid", skipText),
  ("x5u", skipText), ("x5c", skipTexts), ("x5t", skipText), ("x5t#S256", skipText)]

/-- Whether the optional fields among the members of an object are as they have to be. -/
def hasOptional (optional : List (String × Reader Unit)) (members : List (JsonText × Json)) : Bool :=
  (objectFields (optional.map (·.1)) members).any (·.admits optional)

/-- Whether a name is that of none of the fields that every key may have. -/
def isSpecial (name : String) : Bool := !(commonKeyFields.map (·.1)).contains name

/-- The members of an object that are none of the fields that every key may have. -/
def specialMembers (members : List (JsonText × Json)) : List (JsonText × Json) :=
  members.filter fun (name, _) =>
    match name with
    | .text name => isSpecial name
    | _ => true

/-- Whether an object has the required fields of a kind of key. -/
def isKeyOfKind (members : List (JsonText × Json)) (kind : String)
    (required : List (String × Reader Unit)) : Bool :=
  (objectFields ("kty" :: required.map (·.1)) members).any fun f =>
    (f.required "kty" readUnitName == some kind) &&
      required.all fun (name, reader) => (f.required name reader).isSome

/-- Whether an object has the required fields of some kind of key. -/
def isKeyOfSomeKind (members : List (JsonText × Json)) : Bool :=
  keyKinds.any fun (kind, required) => isKeyOfKind members kind required

/-- Reads a JSON Web Key, which may be nested within the limit that is left inside a header. -/
def readKey : Reader Unit
  | .object members =>
      if (Json.object members).isReadable 126 && hasOptional commonKeyFields members &&
          isKeyOfSomeKind (specialMembers members) then
        some ()
      else none
  | _ => none

/-- The optional fields of a header. -/
def headerFields : List (String × Reader Unit) := [
  ("typ", skipText), ("cty", skipText), ("jku", skipText), ("jwk", readKey), ("kid", skipText),
  ("x5u", skipText), ("x5c", skipTexts), ("x5t", skipText), ("x5t#S256", skipText)]

/-- The names of the fields of a header, in order. -/
def headerNames : List String :=
  ["typ", "alg", "cty", "jku", "jwk", "kid", "x5u", "x5c", "x5t", "x5t#S256"]

/-- Reads a header and gives its algorithm. -/
def readHeader : Reader Algorithm := fun json => do
  let f ← fields headerNames json
  let algorithm ← f.required "alg" (readUnit Algorithm.ofName?)
  if f.admits headerFields then some algorithm else none

end SessionTokens.Jwt
