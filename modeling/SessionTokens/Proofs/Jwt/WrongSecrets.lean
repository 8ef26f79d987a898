import Mathlib.Data.Fintype.BigOperators
import Mathlib.Data.Fintype.Pigeonhole
import Mathlib.Tactic.NormNum
import SessionTokens.Proofs.Crypto.Keys
import SessionTokens.Proofs.Jwt.Tampering

/-! # Tokens under another secret

A token is told from one of another secret by the keyed digest alone. So it is refused unless the
two secrets are one key, or what is digested last collides. Neither can be left out: zeros at the
end of a secret do not show in the key, and there are more secrets than digests, however plain the
characters are that a secret may have.
-/

namespace SessionTokens.Jwt

open Crypto Text Time

variable {claims : Claims} {secret other : TokenSecret}

/-- Two secrets are used as one key. -/
def OneKey (secret other : TokenSecret) : Prop :=
  Hmac.SameKey Sha2.sha512 secret.bytes other.bytes

/-- Of the messages that are digested last when claims are signed under two secrets, both have the
same digest although they differ. -/
def OuterCollide (claims : Claims) (secret other : TokenSecret) : Prop :=
  Sha2.Collide Sha2.sha512
    (Hmac.outerMessage Sha2.sha512 secret.bytes (Utf8.encode (message claims)))
    (Hmac.outerMessage Sha2.sha512 other.bytes (Utf8.encode (message claims)))

theorem signature_eq_iff :
    signature secret (message claims) = signature other (message claims) ↔
      OneKey secret other ∨ OuterCollide claims secret other := by
  rw [OneKey, OuterCollide, ← Hmac.mac_eq_iff]
  constructor
  · exact Base64Url.encode_injective
  · exact congrArg Base64Url.encode

/-! ## Extraction under another secret -/

theorem sign_eq_of_signature_eq
    (h : signature secret (message claims) = signature other (message claims)) :
    sign claims secret = sign claims other := by
  rw [sign, sign, h]

theorem extract_of_signature_eq
    (h : signature secret (message claims) = signature other (message claims)) :
    extract (sign claims secret) other = .ok (claims.mapTime Instant.floorSecond) := by
  rw [sign_eq_of_signature_eq h]
  exact extract_sign_eq claims other

theorem extract_of_signature_ne
    (h : signature secret (message claims) ≠ signature other (message claims)) :
    extract (sign claims secret) other = .error .claimsExtraction := by
  refine extract_eq_error_of_not_signed fun found head body given hsigned => h ?_
  have hsplit := hsigned.splitLast_eq
  rw [sign_toList, splitLast_append (dot_not_mem_signature secret _), Option.some.injEq,
    Prod.mk.injEq] at hsplit
  obtain ⟨hmessage, hgiven⟩ := hsplit
  rw [hgiven, hsigned.signature_eq, hmessage, signature]

/-- What a token that was signed under one secret is under another one. -/
structure TellsSecrets (claims : Claims) (secret other : TokenSecret) : Prop where
  refused_iff : extract (sign claims secret) other = .error .claimsExtraction ↔
    ¬ (OneKey secret other ∨ OuterCollide claims secret other)
  accepted_iff : extract (sign claims secret) other = .ok (claims.mapTime Instant.floorSecond) ↔
    OneKey secret other ∨ OuterCollide claims secret other
  /-- Different secrets of at most a block that do not end in a zero are different keys. -/
  short : secret ≠ other → secret.bytes.length ≤ 128 → other.bytes.length ≤ 128 →
    secret.bytes.getLast? ≠ some 0 → other.bytes.getLast? ≠ some 0 → ¬ OneKey secret other
  /-- Different secrets of more than a block are one key only if they collide themselves. -/
  long : secret ≠ other → 128 < secret.bytes.length → 128 < other.bytes.length →
    OneKey secret other → Sha2.Collide Sha2.sha512 secret.bytes other.bytes

theorem bytes_ne (hne : secret ≠ other) : secret.bytes ≠ other.bytes :=
  fun heq => hne (congrArg TokenSecret.mk heq)

/-- A token is refused under another secret exactly if the secrets are different keys and what is
digested last does not collide; every other time it is accepted for what it claims. -/
theorem extract_tells_secrets (claims : Claims) (secret other : TokenSecret) :
    TellsSecrets claims secret other := by
  have hdecided : extract (sign claims secret) other =
      if signature secret (message claims) = signature other (message claims)
      then .ok (claims.mapTime Instant.floorSecond) else .error .claimsExtraction := by
    split
    next heq => exact extract_of_signature_eq heq
    next hne => exact extract_of_signature_ne hne
  constructor
  · rw [hdecided, ← signature_eq_iff]
    split <;> simp [*]
  · rw [hdecided, ← signature_eq_iff]
    split <;> simp [*]
  · intro hne hsecret hother hsecretLast hotherLast hkey
    exact bytes_ne hne (hkey.eq_of_short hsecret hother hsecretLast hotherLast)
  · intro hne hsecret hother hkey
    exact hkey.collide_of_long (bytes_ne hne) hsecret hother

/-- A zero at the end of a secret does not show. -/
theorem zero_at_end_accepted :
    let claims : Claims :=
      ⟨"picshare", "7", "7", "user", .epoch, ⟨900000000000, by decide, by decide⟩⟩
    let secret : TokenSecret := ⟨Utf8.encode "apple".toList⟩
    let other : TokenSecret := ⟨Utf8.encode "apple\x00".toList⟩
    secret ≠ other ∧ extract (sign claims secret) other = .ok claims := by
  intro claims secret other
  have hkey : OneKey secret other := .inl ⟨1, by decide⟩
  have hsame : signature secret (message claims) = signature other (message claims) :=
    signature_eq_iff.mpr (.inl hkey)
  exact ⟨by decide, extract_of_signature_eq hsame⟩

/-! ## Secrets of plain letters -/

/-- A text of 128 small letters. -/
def letterText (letters : Fin 128 → Fin 26) : List Char :=
  List.ofFn fun position => Char.ofNat (97 + letters position)

theorem letterText_injective : Function.Injective letterText := by
  have hletter : ∀ first second : Fin 26, Char.ofNat (97 + first) = Char.ofNat (97 + second) →
      first = second := by decide
  intro letters others h
  funext position
  exact hletter _ _ (congrFun (List.ofFn_injective h) position)

theorem length_sha512 (key message : List UInt8) : (Hmac.sha512 key message).length = 64 :=
  Sha2.length_digest Sha2.sha512 _

/-- Whatever is claimed, two different secrets of 128 small letters sign it alike, because there are
fewer digests than such secrets. -/
theorem exists_letters_accepted (claims : Claims) :
    ∃ text other : List Char, text ≠ other ∧
      (text.length = 128 ∧ ∀ c ∈ text, c.isLower = true) ∧
      (other.length = 128 ∧ ∀ c ∈ other, c.isLower = true) ∧
      extract (sign claims ⟨Utf8.encode text⟩) ⟨Utf8.encode other⟩ =
        .ok (claims.mapTime Instant.floorSecond) := by
  let mac (letters : Fin 128 → Fin 26) : List UInt8 :=
    Hmac.sha512 (Utf8.encode (letterText letters)) (Utf8.encode (message claims))
  let numbers (letters : Fin 128 → Fin 26) : List.Vector (Fin 256) 64 :=
    ⟨(mac letters).map UInt8.toFin, by rw [List.length_map, length_sha512]⟩
  have hcard : Fintype.card (List.Vector (Fin 256) 64) < Fintype.card (Fin 128 → Fin 26) := by
    rw [card_vector, Fintype.card_fun, Fintype.card_fin, Fintype.card_fin, Fintype.card_fin]
    norm_num
  obtain ⟨letters, others, hne, hnumbers⟩ := Fintype.exists_ne_map_eq_of_card_lt numbers hcard
  have hmac : mac letters = mac others :=
    (List.map_inj_right fun _ _ => UInt8.toFin_inj.mp).mp (congrArg Subtype.val hnumbers)
  have hlower (letters : Fin 128 → Fin 26) : ∀ c ∈ letterText letters, c.isLower = true := by
    have hletter : ∀ letter : Fin 26, (Char.ofNat (97 + letter)).isLower = true := by decide
    intro c hc
    obtain ⟨position, rfl⟩ := (List.mem_ofFn' _ _).mp hc
    exact hletter _
  refine ⟨letterText letters, letterText others, fun heq => hne (letterText_injective heq),
    ⟨List.length_ofFn, hlower letters⟩, ⟨List.length_ofFn, hlower others⟩, ?_⟩
  exact extract_of_signature_eq (congrArg Base64Url.encode hmac)

end SessionTokens.Jwt
