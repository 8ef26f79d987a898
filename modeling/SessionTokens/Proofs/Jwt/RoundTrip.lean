import SessionTokens.Proofs.Json.Writing
import SessionTokens.Proofs.Jwt.Format

/-! # What signing writes, extraction reads

A signed token has the format of signed tokens, whatever the claims and the secret are: texts are
escaped and read back in full, and the second of every instant fits the integers of the payload.
What is lost is the part of the instants below a second.
-/

namespace SessionTokens.Jwt

open Json Text Time

/-- The seconds of every representable instant fit 64 bits. -/
theorem second_bounds (t : Instant) : IntegerBounds.signed64.contains t.second = true := by
  have hearliest := t.earliest_le
  have hlatest := t.le_latest
  rw [IntegerBounds.contains_iff]
  simp only [IntegerBounds.signed64, Instant.second, nanosPerSecond]
  omega

theorem namesInstant_second {members : List (String × Json)} {name : String} {t : Instant}
    (h : OccursOnce members name (.ofInt t.second)) : NamesInstant members name t.floorSecond :=
  ⟨t.second, h, second_bounds t, rfl⟩

theorem header_isHeaderFor : IsHeaderFor "HS512" header := by
  have habsent : ∀ name, name ≠ "typ" → name ≠ "alg" →
      Absent [("typ", .ofString "JWT"), ("alg", .ofString "HS512")] name := by
    intro name htyp halg
    simp [Absent, htyp.symm, halg.symm]
  refine .object {
    algorithm := ⟨_, rfl, .name "HS512"⟩
    texts := fun name hname => ?_
    chain := .inl (habsent _ (by decide) (by decide))
    key := .inl (habsent _ (by decide) (by decide)) }
  rcases List.mem_cons.mp hname with rfl | hname
  · exact .inr ⟨_, rfl, .inr ⟨"JWT", rfl⟩⟩
  · refine .inl (habsent name ?_ ?_) <;> rintro rfl <;> contradiction

theorem header_isHeader : IsHeader (encodeText (render header)) :=
  ⟨_, header, rfl, parse_eq_some_iff.mp (parse_render rfl), header_isHeaderFor⟩

theorem payload_isPayload (claims : Claims) :
    IsPayload (encodeText (render (payload claims))) (claims.mapTime Instant.floorSecond) := by
  refine ⟨_, _, rfl, parse_eq_some_iff.mp (parse_render rfl), ?_⟩
  exact {
    issuer := rfl
    subject := rfl
    audience := rfl
    role := rfl
    issuedAt := namesInstant_second rfl
    expiresAt := namesInstant_second rfl
    notBefore := .inl (by simp [Absent]) }

theorem sign_isSigned (claims : Claims) (secret : TokenSecret) :
    IsSigned (sign claims secret).text.toList secret (claims.mapTime Instant.floorSecond)
      (encodeText (render header)) (encodeText (render (payload claims)))
      (signature secret (message claims)) := by
  exact {
    text_eq := by
      rw [sign, String.toList_ofList, message, List.append_assoc, List.cons_append]
    body_unmarked := Base64Url.dot_not_mem_encode _
    signature_unmarked := dot_not_mem_signature secret _
    signature_eq := rfl
    header := header_isHeader
    payload := payload_isPayload claims }

/-- A token is extracted as the claims that it was signed for, on whole seconds. -/
theorem extract_sign_eq (claims : Claims) (secret : TokenSecret) :
    extract (sign claims secret) secret = .ok (claims.mapTime Instant.floorSecond) :=
  extract_eq_ok.mpr (extract?_eq_some_iff.mpr ⟨_, _, _, sign_isSigned claims secret⟩)

theorem floorSecond_eq_self_iff {t : Instant} : t.floorSecond = t ↔ t.IsWhole := by
  simp only [Instant.ext_iff, Instant.IsWhole, Instant.floorSecond, nanosPerSecond]
  omega

theorem mapTime_floorSecond_eq_self_iff {claims : Claims} :
    claims.mapTime Instant.floorSecond = claims ↔
      claims.issuedAt.IsWhole ∧ claims.expiresAt.IsWhole := by
  rw [← floorSecond_eq_self_iff, ← floorSecond_eq_self_iff]
  obtain ⟨issuer, subject, audience, role, issuedAt, expiresAt⟩ := claims
  simp [ClaimsOver.mapTime]

/-- Extraction undoes signing up to the parts of seconds, and undoes it entirely exactly for claims
on whole seconds. -/
theorem sign_round_trip (claims : Claims) (secret : TokenSecret) :
    extract (sign claims secret) secret = .ok (claims.mapTime Instant.floorSecond) ∧
    (extract (sign claims secret) secret = .ok claims ↔
      claims.issuedAt.IsWhole ∧ claims.expiresAt.IsWhole) := by
  have h := extract_sign_eq claims secret
  refine ⟨h, ?_⟩
  rw [h, Except.ok.injEq]
  exact mapTime_floorSecond_eq_self_iff

end SessionTokens.Jwt
