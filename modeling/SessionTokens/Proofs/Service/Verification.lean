import SessionTokens.Proofs.Token.Validity
import SessionTokens.Service.TokenService

/-! # Verification reports every broken rule

Claims hold for a context if they name its user and its role and have not expired. Where they do
not hold, each of the three rules is reported exactly if it is violated, in the order of the rules.
A token that the cache does not know is verified by its claims alone: the answer is what validation
says, and only the identity of claims that hold is remembered.
-/

namespace SessionTokens

open Text Time

namespace Claims

/-! ## The rules -/

/-- The claims name the user and the role of a context, and their expiry has not passed. -/
structure HoldFor (claims : Claims) (now : Instant) (context : SecurityContext) : Prop where
  user : SignedNumeral claims.subject.toList context.user.value
  role : claims.role = context.role.name
  unexpired : now ≤ claims.expiresAt

/-- What claims can violate, in the order of the rules. -/
def rules (claims : Claims) : List TokenError :=
  [.malformedSubject claims.subject, .unsupportedRole claims.role, .expired]

/-- When claims violate a rule. -/
inductive Violate (claims : Claims) (now : Instant) : TokenError → Prop
  | subject : (∀ user : UserId, ¬ SignedNumeral claims.subject.toList user.value) →
      Violate claims now (.malformedSubject claims.subject)
  | role : (∀ role : Role, claims.role ≠ role.name) →
      Violate claims now (.unsupportedRole claims.role)
  | expiry : claims.expiresAt < now → Violate claims now .expired

/-- A list of exactly the violated rules, each once and in order. -/
structure AreViolated (claims : Claims) (now : Instant) (causes : List TokenError) : Prop where
  inOrder : causes.Sublist claims.rules
  violated : ∀ cause, cause ∈ causes ↔ claims.Violate now cause

end Claims

/-! ## Single checks -/

namespace Validated

/-- A check that fails for one reason, exactly if that is the case. -/
structure ChecksFor (check : Validated α) (reason : TokenError) (failed : Prop) : Prop where
  errors_of_failed : failed → check.errors = [reason]
  errors_of_passed : ¬ failed → check.errors = []

variable {check : Validated α} {reason : TokenError} {failed : Prop}

theorem ChecksFor.sublist (h : check.ChecksFor reason failed) : check.errors.Sublist [reason] := by
  by_cases hfailed : failed
  · exact h.errors_of_failed hfailed ▸ List.Sublist.refl [reason]
  · exact h.errors_of_passed hfailed ▸ List.nil_sublist [reason]

theorem ChecksFor.mem_errors_iff (h : check.ChecksFor reason failed) {cause : TokenError} :
    cause ∈ check.errors ↔ cause = reason ∧ failed := by
  by_cases hfailed : failed
  · simp [h.errors_of_failed hfailed, hfailed]
  · simp [h.errors_of_passed hfailed, hfailed]

end Validated

namespace Claims

variable {claims : Claims} {now : Instant} {context : SecurityContext}

theorem checkSubject_checksFor (claims : Claims) :
    claims.checkSubject.ChecksFor (.malformedSubject claims.subject)
      (∀ user : UserId, ¬ SignedNumeral claims.subject.toList user.value) := by
  simp only [← UserId.parse_eq_ok_iff]
  unfold checkSubject
  cases hparse : UserId.parse claims.subject with
  | ok user => exact ⟨fun hnone => absurd rfl (hnone user), fun _ => rfl⟩
  | error problem => exact ⟨fun _ => rfl, fun hsome => absurd (fun _ => nofun) hsome⟩

theorem checkRole_checksFor (claims : Claims) :
    claims.checkRole.ChecksFor (.unsupportedRole claims.role)
      (∀ role : Role, claims.role ≠ role.name) := by
  simp only [ne_eq, ← Role.ofName?_eq_some_iff]
  unfold checkRole
  cases hrole : Role.ofName? claims.role with
  | some role => exact ⟨fun hnone => absurd rfl (hnone role), fun _ => rfl⟩
  | none => exact ⟨fun _ => rfl, fun hsome => absurd (fun _ => nofun) hsome⟩

theorem checkExpiry_checksFor (claims : Claims) (now : Instant) :
    (claims.checkExpiry now).ChecksFor .expired (claims.expiresAt < now) := by
  rw [← Instant.not_le]
  unfold checkExpiry
  split
  next hlive => exact ⟨fun hnot => absurd hlive hnot, fun _ => rfl⟩
  next hnot => exact ⟨fun _ => rfl, fun hlive => absurd hnot hlive⟩

/-! ## All checks together -/

theorem validate_errors (claims : Claims) (now : Instant) :
    (claims.validate now).errors =
      claims.checkSubject.errors ++ claims.checkRole.errors ++ (claims.checkExpiry now).errors := by
  rw [validate, Validated.errors_map, Validated.errors_zip, Validated.errors_zip]

theorem validate_errors_areViolated (claims : Claims) (now : Instant) :
    claims.AreViolated now (claims.validate now).errors := by
  have hsubject := checkSubject_checksFor claims
  have hrole := checkRole_checksFor claims
  have hexpiry := checkExpiry_checksFor claims now
  rw [validate_errors]
  constructor
  · exact (hsubject.sublist.append hrole.sublist).append hexpiry.sublist
  · intro cause
    rw [List.mem_append, List.mem_append, hsubject.mem_errors_iff, hrole.mem_errors_iff,
      hexpiry.mem_errors_iff]
    constructor
    · rintro ((⟨rfl, hbroken⟩ | ⟨rfl, hbroken⟩) | ⟨rfl, hbroken⟩)
      · exact .subject hbroken
      · exact .role hbroken
      · exact .expiry hbroken
    · intro hbroken
      cases hbroken with
      | subject h => exact .inl (.inl ⟨rfl, h⟩)
      | role h => exact .inl (.inr ⟨rfl, h⟩)
      | expiry h => exact .inr ⟨rfl, h⟩

theorem validate_eq_valid_iff_holdFor :
    claims.validate now = .valid context ↔ claims.HoldFor now context := by
  rw [validate_eq_valid_iff, UserId.parse_eq_ok_iff, Role.ofName?_eq_some_iff]
  exact ⟨fun ⟨huser, hrole, hexpiry⟩ => ⟨huser, hrole, hexpiry⟩,
    fun ⟨huser, hrole, hexpiry⟩ => ⟨huser, hrole, hexpiry⟩⟩

end Claims

/-! ## Verification -/

/-- The cache does not know a token, and the signer extracts claims from it, leaving a world. -/
structure Collaborators.Extracts (c : Collaborators σ) (config : ServiceConfig)
    (token : AccessToken) (world : σ) (claims : Claims) (extracted : σ) : Prop where
  unknown : ∀ context, (c.consult token world).1 ≠ .ok (some context)
  extract_eq : c.extract token config.secret (c.consult token world).2 = (.ok claims, extracted)

namespace TokenService

variable {config : ServiceConfig} {token : AccessToken} {c : Collaborators σ}
  {world extracted : σ} {claims : Claims}

/-- A token that the cache does not know is verified afresh. -/
theorem verify_run_unknown (hunknown : ∀ context, (c.consult token world).1 ≠ .ok (some context)) :
    (verify config token).run c world =
      (verifyAfresh config token).run c (c.consult token world).2 := by
  simp only [verify, Script.run]

theorem verify_run_extracted (h : c.Extracts config token world claims extracted) :
    (verify config token).run c world =
      match claims.validate (c.now extracted) with
      | .invalid violations => (.error (.invalidClaims violations), extracted)
      | .valid context =>
          (.ok context, (c.remember token context claims.expiresAt extracted).2) := by
  rw [verify_run_unknown h.unknown]
  simp only [verifyAfresh, Script.run, h.extract_eq]
  cases claims.validate (c.now extracted) with
  | invalid violations => rfl
  | valid context => rfl

end TokenService

namespace Claims

open TokenService

/-- What validation says of claims, and what becomes of a token that they are extracted from because
the cache does not know it. -/
structure IsValidatedExactly (claims : Claims) (now : Instant) : Prop where
  valid_iff : ∀ context, claims.validate now = .valid context ↔ claims.HoldFor now context
  invalid : (∀ context, ¬ claims.HoldFor now context) →
    ∃ violations, claims.validate now = .invalid violations ∧
      claims.AreViolated now violations.toList
  verified : ∀ {σ : Type} {c : Collaborators σ} {config : ServiceConfig} {token : AccessToken}
    {world extracted : σ}, c.Extracts config token world claims extracted →
    c.now extracted = now → ∀ context, claims.validate now = .valid context →
    (verify config token).run c world =
      (.ok context, (c.remember token context claims.expiresAt extracted).2)
  refused : ∀ {σ : Type} {c : Collaborators σ} {config : ServiceConfig} {token : AccessToken}
    {world extracted : σ}, c.Extracts config token world claims extracted →
    c.now extracted = now → ∀ violations, claims.validate now = .invalid violations →
    ∃ failure, (verify config token).run c world = (.error failure, extracted) ∧
      failure = .invalidClaims violations ∧ claims.AreViolated now failure.causes

/-- Claims are valid exactly if they hold, and every other time all violated rules are reported, as
they are by the verification that meets the claims; nothing is remembered then. -/
theorem validate_isExact (claims : Claims) (now : Instant) : claims.IsValidatedExactly now where
  valid_iff _ := validate_eq_valid_iff_holdFor
  invalid hnone := by
    have hviolated := validate_errors_areViolated claims now
    cases hvalidate : claims.validate now with
    | valid context => exact absurd (validate_eq_valid_iff_holdFor.mp hvalidate) (hnone context)
    | invalid violations =>
        rw [hvalidate] at hviolated
        exact ⟨violations, rfl, hviolated⟩
  verified h hnow context hvalid := by
    rw [verify_run_extracted h, hnow, hvalid]
  refused h hnow violations hinvalid := by
    have hviolated := validate_errors_areViolated claims now
    rw [hinvalid] at hviolated
    refine ⟨.invalidClaims violations, ?_, rfl, hviolated⟩
    rw [verify_run_extracted h, hnow, hinvalid]

/-- A subject with two signs, a role in capitals and an expiry one nanosecond ago are reported
together. -/
example :
    let claims : Claims := ⟨"issuer", "--7", "--7", "USER", .epoch, .epoch⟩
    claims.validate ⟨1, by decide, by decide⟩ =
      .invalid ⟨.malformedSubject "--7", [.unsupportedRole "USER", .expired]⟩ := by
  rfl

end Claims

end SessionTokens
