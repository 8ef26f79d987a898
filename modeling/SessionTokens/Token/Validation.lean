import SessionTokens.Token.Claims
import SessionTokens.Token.Validated

/-! # When claims hold

Three rules are checked independently: the subject has to be a user number, the role has to be
known and the expiry must not have passed. Every broken rule is reported, in this order.
-/

namespace SessionTokens

open Time

namespace Claims

/-- The subject has to be the decimal text of a user number. -/
def checkSubject (claims : Claims) : Validated UserId :=
  .ofExcept <| match UserId.parse claims.subject with
    | .ok user => .ok user
    | .error _ => .error (.malformedSubject claims.subject)

/-- The role has to be the name of a role. -/
def checkRole (claims : Claims) : Validated Role :=
  .ofExcept <| match Role.ofName? claims.role with
    | some role => .ok role
    | none => .error (.unsupportedRole claims.role)

/-- The claims hold through the instant of their expiry. -/
def checkExpiry (claims : Claims) (now : Instant) : Validated Unit :=
  .ofExcept <| if now ≤ claims.expiresAt then .ok () else .error .expired

/-- Checks all rules and gives the context that the claims stand for. -/
def validate (claims : Claims) (now : Instant) : Validated SecurityContext :=
  ((claims.checkSubject.zip claims.checkRole).zip (claims.checkExpiry now)).map
    fun ((user, role), _) => ⟨user, role⟩

end Claims

end SessionTokens
