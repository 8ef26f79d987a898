import SessionTokens.Crypto.Sha2

/-! # Keyed digests

HMAC over a SHA-2 digest. A key is used as one block: a longer key is digested first and a shorter
one is filled up with zeros, so two keys that agree as blocks sign alike.
-/

namespace SessionTokens.Crypto.Hmac

open Sha2

/-- A key as one block. -/
def keyBlock (v : Variant w) (key : List UInt8) : List UInt8 :=
  let short := if blockSize w < key.length then digest v key else key
  short ++ List.replicate (blockSize w - short.length) 0

/-- The keyed digest of a message. -/
def mac (v : Variant w) (key message : List UInt8) : List UInt8 :=
  let block := keyBlock v key
  let inner := digest v (block.map (· ^^^ 0x36) ++ message)
  digest v (block.map (· ^^^ 0x5c) ++ inner)

/-- The keyed digest over SHA-512. -/
def sha512 (key message : List UInt8) : List UInt8 := mac Sha2.sha512 key message

end SessionTokens.Crypto.Hmac
