import SessionTokens.Proofs.Service.Evolution
import SessionTokens.Proofs.Service.Resemblance
import SessionTokens.Proofs.Store.Sweeps

/-! # A cycle of the reaper ends what has expired and nothing else

Whoever presents only tokens with time left cannot tell whether a cycle was made: the deployments
with and without it resemble each other on those tokens. Every other token is spent by the cycle,
which leaves it revoked or without a record. The two kinds meet at the reading of the clock. A token
that expires exactly then could still be refreshed, and is taken by the cycle all the same.
-/

namespace SessionTokens

open Time

namespace Deployment

variable {d : Deployment} {grace : Duration} {token : RefreshToken} {record : Record}

theorem unlessRefused_eq (hrefused : d.refused = []) (operation : StoreOperation)
    (act : Deployment → Except DomainError α × Deployment) :
    d.unlessRefused operation act = act d := by
  simp [unlessRefused, hrefused]

theorem reap_eq (hrefused : d.refused = []) (grace : Duration) :
    (d.reap grace).2 =
      { d with
        store := (d.store.reap grace d.clock.now).2
        revokeSweeps := d.revokeSweeps + 1
        deleteSweeps := d.deleteSweeps + 1 } := by
  have hrevoked : d.revokeExpired = (.ok (d.store.revokeExpired d.clock.now).1,
      { d with
        store := (d.store.revokeExpired d.clock.now).2
        revokeSweeps := d.revokeSweeps + 1 }) := by
    rw [revokeExpired, revokeExpiredAt, unlessRefused_eq]
    exact hrefused
  simp only [reap, hrevoked, deleteExpiredFor, deleteExpiredForAt]
  rw [unlessRefused_eq]
  · rfl
  · exact hrefused

/-! ## Tokens with time left -/

/-- A token that has no record yet, or one that expires later. -/
def HasTimeLeft (d : Deployment) (token : RefreshToken) : Prop :=
  ∀ record, d.store.find? token = some record → d.clock.now < record.expiresAt

theorem reap_resembles (hfresh : d.DrawsFresh) (hrefused : d.refused = [])
    (hgrace : 0 ≤ grace.nanos) : d.Resembles d.HasTimeLeft (d.reap grace).2 := by
  rw [reap_eq hrefused]
  refine .intro _ _ _ ?_ ?_
  · intro token hleft
    exact Store.find?_reap_of_lt hgrace hleft
  · intro n hn record hfound
    rw [hfresh.unused n hn] at hfound
    cases hfound

/-! ## Tokens that are spent -/

/-- Every use of a token fails for a cause, and nothing else comes of it. -/
structure Refuses (d : Deployment) (token : RefreshToken) (cause : RefreshTokenError) : Prop where
  refresh : d.refresh token = (.error (.refreshToken cause), d)
  revoke : d.revoke token = (.error (.refreshToken cause), d)
  storeRevoke : d.storeRevoke token = (.error (.refreshToken cause), d)
  prolong : d.prolong token = (.error (.refreshToken cause), d)

theorem refuses_of_store (hrefused : d.refused = []) {cause : RefreshTokenError}
    (hrevoke : d.store.revoke d.clock.now token = (.error (.refreshToken cause), d.store))
    (hprolong : d.store.prolong d.refreshLifetime d.clock.now token =
      (.error (.refreshToken cause), d.store)) : d.Refuses token cause := by
  have hstoreRevoke : d.storeRevoke token = (.error (.refreshToken cause), d) := by
    rw [Deployment.storeRevoke, unlessRefused_eq hrefused, hrevoke]
  constructor
  case storeRevoke => exact hstoreRevoke
  case prolong => rw [Deployment.prolong, prolongAt, unlessRefused_eq hrefused, hprolong]
  -- both conversations begin by revoking the token and end with the failure
  case refresh =>
    simp only [Deployment.refresh, TokenService.refresh, Script.run, collaborators, hstoreRevoke]
  case revoke =>
    simp only [Deployment.revoke, TokenService.revoke, Script.run, collaborators, hstoreRevoke]

theorem refuses_of_absent (hrefused : d.refused = []) (hfound : d.store.find? token = none) :
    d.Refuses token .invalid := by
  refine refuses_of_store hrefused ?_ ?_
  · simp only [Store.revoke, hfound]
  · simp only [Store.prolong, hfound]

theorem refuses_of_inactive (hrefused : d.refused = []) (hfound : d.store.find? token = some record)
    (hinactive : record.isActive = false) : d.Refuses token .alreadyRevoked := by
  refine refuses_of_store hrefused ?_ ?_
  · simp [Store.revoke, hfound, hinactive]
  · simp [Store.prolong, hfound, hinactive]

theorem IsSpent.refuses (hspent : d.IsSpent token) (hrefused : d.refused = []) :
    ∃ cause, (cause = .invalid ∨ cause = .alreadyRevoked) ∧ d.Refuses token cause := by
  cases hfound : d.store.find? token with
  | none => exact ⟨.invalid, .inl rfl, refuses_of_absent hrefused hfound⟩
  | some record =>
      have hinactive := hspent.not_active record hfound
      exact ⟨.alreadyRevoked, .inr rfl, refuses_of_inactive hrefused hfound hinactive⟩

theorem reap_isSpent (hfresh : d.DrawsFresh) (hrefused : d.refused = [])
    (hgrace : 0 ≤ grace.nanos) (hfound : d.store.find? token = some record)
    (hexpired : record.expiresAt ≤ d.clock.now) : (d.reap grace).2.IsSpent token := by
  rw [reap_eq hrefused]
  constructor
  · intro n hn hid
    have hunused := hfresh.unused n hn
    rw [hid, hfound] at hunused
    cases hunused
  · intro kept hkept
    exact Store.isActive_eq_false_of_reap hgrace hfound hexpired hkept

/-! ## Tokens that could still be refreshed -/

/-- A deployment in which a record was revoked at the reading of the clock. -/
def revoking (d : Deployment) (token : RefreshToken) (record : Record) : Deployment :=
  { d with store := d.store.replace token (record.revoke d.clock.now) }

theorem storeRevoke_of_active (hrefused : d.refused = [])
    (hfound : d.store.find? token = some record) (hactive : record.isActive = true) :
    d.storeRevoke token = (.ok (record.revoke d.clock.now), d.revoking token record) := by
  rw [storeRevoke, unlessRefused_eq hrefused]
  simp only [Store.revoke, hfound, hactive, if_true]
  rfl

/-- A refresh of an active token revokes it and goes on with the record as it was at that reading of
the clock. -/
theorem refresh_of_active (hrefused : d.refused = []) (hfound : d.store.find? token = some record)
    (hactive : record.isActive = true) :
    d.refresh token =
      (TokenService.redeem d.config (record.revoke d.clock.now) d.clock.now).run collaborators
        (d.revoking token record) := by
  have hrevoke := storeRevoke_of_active hrefused hfound hactive
  have hrevokedAt : (record.revoke d.clock.now).revokedAt = some d.clock.now := rfl
  simp only [refresh, TokenService.refresh, Script.run, collaborators, hrevoke, hrevokedAt]

/-- A refresh of an active token that has not expired is answered as a login of its holder would be
once the token is revoked. -/
theorem refresh_eq_generate (hrefused : d.refused = []) (hfound : d.store.find? token = some record)
    (hactive : record.isActive = true) (hleft : d.clock.now ≤ record.expiresAt) :
    d.refresh token = (d.storeRevoke token).2.generate record.context := by
  have hunexpired : (record.revoke d.clock.now).isExpiredAt d.clock.now = false := by
    apply decide_eq_false
    exact Int.not_lt.mpr hleft
  rw [refresh_of_active hrefused hfound hactive, storeRevoke_of_active hrefused hfound hactive]
  simp only [TokenService.redeem, hunexpired]
  rfl

/-- Whether tokens can be signed and the expiries of a pair can be represented. -/
structure CanIssue (d : Deployment) : Prop where
  signs : d.signerWorks = true
  accessExpiry : (d.clock.now.add? d.config.accessLifetime).isSome
  refreshExpiry : (d.clock.now.add? d.refreshLifetime).isSome

/-- An insertion whose expiry can be represented fails only on a token that is in the store. -/
theorem insert_cases (hrefused : d.refused = [])
    (hexpiry : (d.clock.now.add? d.refreshLifetime).isSome) (context : SecurityContext) :
    (∃ record, (d.insert context).1 = .ok record) ∨
      (d.insert context).1 = .error (.storage "Refresh token already exists") ∧
        (d.store.find? (d.ids d.drawn)).isSome := by
  obtain ⟨expiresAt, hexpiresAt⟩ := Option.isSome_iff_exists.mp hexpiry
  rw [insert, insertAt, unlessRefused_eq hrefused]
  simp only [Store.insert, Record.issue, hexpiresAt]
  by_cases h : d.store.find? (d.ids d.drawn) = none
  · rw [dif_pos h]
    exact .inl ⟨_, rfl⟩
  · rw [dif_neg h]
    exact .inr ⟨rfl, Option.isSome_iff_ne_none.mpr h⟩

theorem CanIssue.generate_cases (h : d.CanIssue) (hrefused : d.refused = [])
    (context : SecurityContext) :
    (∃ pair, (d.generate context).1 = .ok pair) ∨
      (d.generate context).1 = .error (.storage "Refresh token already exists") ∧
        (d.store.find? (d.ids d.drawn)).isSome := by
  obtain ⟨expiresAt, haccess⟩ := Option.isSome_iff_exists.mp h.accessExpiry
  have hsigned (claims : Claims) (secret : TokenSecret) :
      (d.sign claims secret).1 = .ok (Jwt.sign claims secret) := by
    simp only [sign, h.signs, if_true]
  have hinserted (claims : Claims) (secret : TokenSecret) :=
    insert_cases (d := (d.sign claims secret).2) hrefused h.refreshExpiry context
  simp only [generate, TokenService.generate, Script.run, collaborators, Claims.forContext, haccess,
    hsigned, TokenService.deliver]
  rcases hinserted _ _ with ⟨record, hrecord⟩ | ⟨hrepeated, hfound⟩
  · rw [hrecord]
    exact .inl ⟨_, rfl⟩
  · rw [hrepeated]
    exact .inr ⟨rfl, hfound⟩

theorem CanIssue.generate_eq_ok (h : d.CanIssue) (hfresh : d.DrawsFresh) (hrefused : d.refused = [])
    (context : SecurityContext) : ∃ pair, (d.generate context).1 = .ok pair := by
  rcases h.generate_cases hrefused context with hissued | ⟨-, hfound⟩
  · exact hissued
  · rw [hfresh.unused d.drawn (Nat.le_refl _)] at hfound
    cases hfound

theorem CanIssue.storeRevoke (h : d.CanIssue) (hrefused : d.refused = []) (token : RefreshToken) :
    (d.storeRevoke token).2.CanIssue := by
  rw [Deployment.storeRevoke, unlessRefused_eq hrefused]
  exact ⟨h.signs, h.accessExpiry, h.refreshExpiry⟩

/-! ## The cycle -/

/-- What a cycle means for every token, whatever is done after it. -/
structure ReapsTheExpired (d : Deployment) (grace : Duration) : Prop where
  invisible : ∀ commands, PresentsOnly d.HasTimeLeft commands →
    ((d.reap grace).2.performAll commands).1 = (d.performAll commands).1
  final : ∀ token record, d.store.find? token = some record → record.expiresAt ≤ d.clock.now →
    ∀ commands, ∃ cause, (cause = .invalid ∨ cause = .alreadyRevoked) ∧
      ((d.reap grace).2.performAll commands).2.Refuses token cause
  /-- A token that is lost at the last moment: without the cycle it would have been refreshed. -/
  lost : ∀ token record, d.store.find? token = some record → record.isActive = true →
    record.expiresAt = d.clock.now →
      d.refresh token = (d.storeRevoke token).2.generate record.context ∧
        (d.CanIssue → ∃ pair, (d.refresh token).1 = .ok pair)

/-- A cycle of the reaper is invisible to those who present only tokens with time left, and final
for all other tokens. -/
theorem reap_reapsTheExpired (d : Deployment) (grace : Duration) (hfresh : d.DrawsFresh)
    (hrefused : d.refused = []) (hgrace : 0 ≤ grace.nanos) : d.ReapsTheExpired grace := by
  constructor
  case invisible =>
    intro commands hcommands
    exact (performAll_isBlind hcommands d _ (reap_resembles hfresh hrefused hgrace)).1
  case final =>
    intro token record hfound hexpired commands
    have hlater := performAll_evolves (d.reap grace).2 commands
    have hspent := (reap_isSpent hfresh hrefused hgrace hfound hexpired).evolve hlater
    have hrefusedLater := (d.reap_evolves grace).trans hlater |>.refused_eq.trans hrefused
    exact hspent.refuses hrefusedLater
  case lost =>
    intro token record hfound hactive hnow
    have hleft : d.clock.now ≤ record.expiresAt := by
      rw [hnow]
      exact Int.le_refl _
    have hsame := refresh_eq_generate hrefused hfound hactive hleft
    refine ⟨hsame, ?_⟩
    intro hissue
    rw [hsame]
    have hrevoked := d.storeRevoke_evolves token
    exact (hissue.storeRevoke hrefused token).generate_eq_ok (hfresh.evolve hrevoked)
      (hrevoked.refused_eq.trans hrefused) record.context

/-- Two tokens were issued, of which the first one expires at the very reading at which the cycle is
made. -/
theorem reap_at_expiry_reapsTheExpired :
    let ids : Nat → RefreshToken := fun n => ⟨String.ofList (List.replicate n 'a')⟩
    let start : Deployment :=
      { config := ⟨"issuer", ⟨[115]⟩, .ofSeconds 60⟩, refreshLifetime := .ofSeconds 600
        clock := .startingAt .epoch, ids }
    let holder : SecurityContext := ⟨⟨7, by decide, by decide⟩, .user⟩
    let d := (start.performAll [.insert holder, .move (.advance (.ofSeconds 300)), .insert holder,
      .move (.advance (.ofSeconds 300))]).2
    (d.store.find? (ids 0)).map (·.expiresAt) = some d.clock.now ∧
      d.DrawsFresh ∧ d.refused = [] ∧ 0 ≤ (Duration.ofSeconds 60).nanos ∧
      d.ReapsTheExpired (.ofSeconds 60) := by
  intro ids start holder d
  have hdistinct : ∀ m n, ids m = ids n → m = n := by
    intro m n heq
    have hlists := String.ofList_injective (congrArg RefreshToken.text heq)
    simpa using congrArg List.length hlists
  have hfresh : d.DrawsFresh := performAll_drawsFresh rfl hdistinct _
  have hrefused : d.refused = [] := (performAll_evolves start _).refused_eq
  have hgrace : 0 ≤ (Duration.ofSeconds 60).nanos := by decide
  exact ⟨by decide, hfresh, hrefused, hgrace,
    reap_reapsTheExpired d (.ofSeconds 60) hfresh hrefused hgrace⟩

end Deployment

end SessionTokens
