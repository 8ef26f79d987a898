import SessionTokens.Proofs.Identity
import SessionTokens.Token.Validation

/-! # How long claims hold

Claims that hold at some instant hold for the same context at every other one up to their expiry,
before as well as after it. Claims that were made for a context hold for that context until they
expire, and from then on nothing is wrong with them but that.
-/

namespace SessionTokens

open Time

namespace Validated

theorem ofExcept_eq_valid_iff {result : Except TokenError α} {value : α} :
    ofExcept result = .valid value ↔ result = .ok value := by
  cases result <;> simp [ofExcept, fail]

theorem map_eq_valid_iff {f : α → β} {v : Validated α} {value : β} :
    v.map f = .valid value ↔ ∃ found, v = .valid found ∧ f found = value := by
  cases v <;> simp [map]

theorem zip_eq_valid_iff {v : Validated α} {w : Validated β} {left : α} {right : β} :
    v.zip w = .valid (left, right) ↔ v = .valid left ∧ w = .valid right := by
  cases v <;> cases w <;> simp [zip]

end Validated

namespace Claims

theorem checkSubject_eq_valid_iff {claims : Claims} {user : UserId} :
    claims.checkSubject = .valid user ↔ UserId.parse claims.subject = .ok user := by
  rw [checkSubject, Validated.ofExcept_eq_valid_iff]
  cases UserId.parse claims.subject <;> simp

theorem checkRole_eq_valid_iff {claims : Claims} {role : Role} :
    claims.checkRole = .valid role ↔ Role.ofName? claims.role = some role := by
  rw [checkRole, Validated.ofExcept_eq_valid_iff]
  cases Role.ofName? claims.role <;> simp

theorem checkExpiry_eq_valid_iff {claims : Claims} {now : Instant} :
    claims.checkExpiry now = .valid () ↔ now ≤ claims.expiresAt := by
  rw [checkExpiry, Validated.ofExcept_eq_valid_iff]
  split
  next hle => simp [hle]
  next hnot => simp [hnot]

theorem validate_eq_valid_iff {claims : Claims} {now : Instant} {context : SecurityContext} :
    claims.validate now = .valid context ↔
      UserId.parse claims.subject = .ok context.user ∧
        Role.ofName? claims.role = some context.role ∧ now ≤ claims.expiresAt := by
  rw [validate, Validated.map_eq_valid_iff, ← checkSubject_eq_valid_iff, ← checkRole_eq_valid_iff,
    ← checkExpiry_eq_valid_iff]
  constructor
  · rintro ⟨⟨⟨user, role⟩, _⟩, hchecks, rfl⟩
    obtain ⟨hidentity, hexpiry⟩ := Validated.zip_eq_valid_iff.mp hchecks
    obtain ⟨hsubject, hrole⟩ := Validated.zip_eq_valid_iff.mp hidentity
    exact ⟨hsubject, hrole, hexpiry⟩
  · rintro ⟨hsubject, hrole, hexpiry⟩
    have hidentity := Validated.zip_eq_valid_iff.mpr ⟨hsubject, hrole⟩
    exact ⟨_, Validated.zip_eq_valid_iff.mpr ⟨hidentity, hexpiry⟩, rfl⟩

/-- Claims that were found to hold do so at every instant up to their expiry. -/
theorem validate_of_le {claims : Claims} {checkedAt now : Instant} {context : SecurityContext}
    (h : claims.validate checkedAt = .valid context) (hnow : now ≤ claims.expiresAt) :
    claims.validate now = .valid context := by
  obtain ⟨hsubject, hrole, -⟩ := validate_eq_valid_iff.mp h
  exact validate_eq_valid_iff.mpr ⟨hsubject, hrole, hnow⟩

/-- Claims that were made for a context hold for it, also once their instants were cut down to whole
seconds, at every whole second up to their expiry. -/
theorem forContext_validate {issuer : String} {context : SecurityContext} {issuedAt now : Instant}
    {lifetime : Duration} {claims : Claims}
    (h : forContext issuer context issuedAt lifetime = .ok claims) (hwhole : now.IsWhole)
    (hnow : now ≤ claims.expiresAt) :
    validate (claims.mapTime Instant.floorSecond) now = .valid context := by
  unfold forContext at h
  split at h
  next => cases h
  next =>
    cases h
    refine validate_eq_valid_iff.mpr ⟨UserId.parse_display context.user,
      Role.ofName?_name context.role, ?_⟩
    simp only [Instant.IsWhole, Instant.le_def, ClaimsOver.mapTime, Instant.floorSecond,
      nanosPerSecond] at hwhole hnow ⊢
    omega

/-- Where nothing but the expiry is wrong, nothing else is reported. -/
theorem validate_eq_expired {claims : Claims} {now : Instant} {context : SecurityContext}
    (hsubject : UserId.parse claims.subject = .ok context.user)
    (hrole : Role.ofName? claims.role = some context.role) (hexpired : claims.expiresAt < now) :
    claims.validate now = .invalid ⟨.expired, []⟩ := by
  have hlate : ¬ now ≤ claims.expiresAt := Int.not_le.mpr hexpired
  rw [validate, checkSubject_eq_valid_iff.mpr hsubject, checkRole_eq_valid_iff.mpr hrole,
    checkExpiry, if_neg hlate]
  rfl

/-- Claims that were made for a context are broken past their expiry in this one respect, also once
their instants were cut down to whole seconds. -/
theorem forContext_validate_expired {issuer : String} {context : SecurityContext}
    {issuedAt now : Instant} {lifetime : Duration} {claims : Claims}
    (h : forContext issuer context issuedAt lifetime = .ok claims)
    (hexpired : claims.expiresAt < now) :
    validate (claims.mapTime Instant.floorSecond) now = .invalid ⟨.expired, []⟩ := by
  unfold forContext at h
  split at h
  next => cases h
  next expiresAt _ =>
    cases h
    exact validate_eq_expired (UserId.parse_display context.user) (Role.ofName?_name context.role)
      (Int.lt_of_le_of_lt (Instant.floorSecond_le expiresAt) hexpired)

end Claims

end SessionTokens
