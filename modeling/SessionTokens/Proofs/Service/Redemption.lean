import SessionTokens.Proofs.Service.Generation

/-! # Redeeming a refresh token

A refresh is a revocation and, unless the record had expired, a login of its holder. It stops where
the first of these fails: a token without an active record changes nothing, an expired one stays
revoked without a pair, and so does one for which no pair can be issued. Whatever the answer was,
the token is spent.
-/

namespace SessionTokens

open Time

namespace Deployment

variable {d : Deployment} {token : RefreshToken} {record : Record}

/-! ## The outcomes -/

/-- How redeeming a refresh token ends. -/
inductive Redemption (d : Deployment) (token : RefreshToken) :
    Except DomainError TokenPair × Deployment → Prop
  | absent : d.store.find? token = none → Redemption d token (.error (.refreshToken .invalid), d)
  | inactive {record : Record} : d.store.find? token = some record → record.isActive = false →
      Redemption d token (.error (.refreshToken .alreadyRevoked), d)
  | expired {record : Record} : d.store.find? token = some record → record.isActive = true →
      record.expiresAt < d.clock.now →
        Redemption d token (.error (.token .expired), d.revoking token record)
  | redeemed {record : Record} {outcome : Except DomainError TokenPair × Deployment} :
      d.store.find? token = some record → record.isActive = true →
        d.clock.now ≤ record.expiresAt →
          (d.revoking token record).Generation record.context outcome →
            Redemption d token outcome

theorem refresh_of_expired (hrefused : d.refused = []) (hfound : d.store.find? token = some record)
    (hactive : record.isActive = true) (hexpired : record.expiresAt < d.clock.now) :
    d.refresh token = (.error (.token .expired), d.revoking token record) := by
  have hpast : (record.revoke d.clock.now).isExpiredAt d.clock.now = true :=
    decide_eq_true hexpired
  rw [refresh_of_active hrefused hfound hactive]
  simp only [TokenService.redeem, hpast, if_true, TokenService.failing, Script.run]

theorem refresh_of_unexpired (hrefused : d.refused = [])
    (hfound : d.store.find? token = some record) (hactive : record.isActive = true)
    (hleft : d.clock.now ≤ record.expiresAt) :
    d.refresh token = (d.revoking token record).generate record.context := by
  rw [refresh_eq_generate hrefused hfound hactive hleft,
    storeRevoke_of_active hrefused hfound hactive]

theorem refresh_redemption (hsigner : d.signerWorks = true) (hrefused : d.refused = [])
    (token : RefreshToken) : d.Redemption token (d.refresh token) := by
  cases hfound : d.store.find? token with
  | none =>
      rw [(refuses_of_absent hrefused hfound).refresh]
      exact .absent hfound
  | some record =>
      cases hactive : record.isActive with
      | false =>
          rw [(refuses_of_inactive hrefused hfound hactive).refresh]
          exact .inactive hfound hactive
      | true =>
          by_cases hexpired : record.expiresAt < d.clock.now
          · rw [refresh_of_expired hrefused hfound hactive hexpired]
            exact .expired hfound hactive hexpired
          · have hleft : d.clock.now ≤ record.expiresAt := Int.not_lt.mp hexpired
            rw [refresh_of_unexpired hrefused hfound hactive hleft]
            exact .redeemed hfound hactive hleft
              (generate_generation (d := d.revoking token record) hsigner hrefused record.context)

/-! ## Records -/

theorem find?_revoking (hfound : d.store.find? token = some record) (other : RefreshToken) :
    (d.revoking token record).store.find? other =
      if other = token then some (record.revoke d.clock.now) else d.store.find? other := by
  rw [revoking, Store.find?_replace, hfound, Option.map_some]

/-- Issuing changes no record that there is. -/
theorem Generation.keeps {context : SecurityContext}
    {outcome : Except DomainError TokenPair × Deployment} (h : d.Generation context outcome)
    (hfound : d.store.find? token = some record) :
    outcome.2.store.find? token = some record := by
  cases h with
  | @issued pair after h =>
      have hother : token ≠ pair.refreshToken := by
        rintro rfl
        rw [h.unused] at hfound
        cases hfound
      exact (h.others token hother).trans hfound
  | noAccessExpiry => exact hfound
  | noRefreshExpiry _ _ hstore =>
      rw [hstore]
      exact hfound
  | repeated _ _ hstore =>
      rw [hstore]
      exact hfound

/-- A refresh that finds an active record leaves it revoked at the reading of the clock. -/
theorem Redemption.revoked {outcome : Except DomainError TokenPair × Deployment}
    (h : d.Redemption token outcome) (hfound : d.store.find? token = some record)
    (hactive : record.isActive = true) :
    outcome.2.store.find? token = some (record.revoke d.clock.now) := by
  cases h with
  | absent hnone => cases hnone.symm.trans hfound
  | inactive hsame hinactive =>
      cases hsame.symm.trans hfound
      cases hinactive.symm.trans hactive
  | expired hsame =>
      cases hsame.symm.trans hfound
      exact (find?_revoking hfound token).trans (if_pos rfl)
  | redeemed hsame _ _ hgenerated =>
      cases hsame.symm.trans hfound
      exact hgenerated.keeps ((find?_revoking hfound token).trans (if_pos rfl))

/-- A refresh leaves the records of all other tokens as they are. -/
theorem Redemption.others {outcome : Except DomainError TokenPair × Deployment}
    (h : d.Redemption token outcome) {other : RefreshToken} (hother : other ≠ token)
    (hfound : d.store.find? other = some record) :
    outcome.2.store.find? other = some record := by
  cases h with
  | absent => exact hfound
  | inactive => exact hfound
  | expired hsame =>
      rw [find?_revoking hsame, if_neg hother]
      exact hfound
  | redeemed hsame _ _ hgenerated =>
      refine hgenerated.keeps ?_
      rw [find?_revoking hsame, if_neg hother]
      exact hfound

/-- After a refresh the token is spent, unless it is drawn for the first time later. -/
theorem refresh_isSpent (hfresh : d.DrawsFresh) (hsigner : d.signerWorks = true)
    (hrefused : d.refused = [])
    (hnew : d.store.find? token = none → ∀ n, d.drawn ≤ n → d.ids n ≠ token) :
    (d.refresh token).2.IsSpent token := by
  have h := refresh_redemption hsigner hrefused token
  have hevolves : d.Evolves (d.refresh token).2 := run_evolves _ d
  have hdrawn (n : Nat) (hn : d.drawn ≤ n) : d.ids n ≠ token := by
    cases hfound : d.store.find? token with
    | none => exact hnew hfound n hn
    | some record =>
        rintro rfl
        rw [hfresh.unused n hn] at hfound
        cases hfound
  constructor
  · intro n hn
    rw [hevolves.ids_eq]
    exact hdrawn n (Nat.le_trans hevolves.drawn_le hn)
  · intro kept hkept
    cases hfound : d.store.find? token with
    | none =>
        rw [(refuses_of_absent hrefused hfound).refresh, hfound] at hkept
        cases hkept
    | some record =>
        cases hactive : record.isActive with
        | false =>
            rw [(refuses_of_inactive hrefused hfound hactive).refresh, hfound] at hkept
            cases hkept
            exact hactive
        | true =>
            rw [h.revoked hfound hactive] at hkept
            cases hkept
            rfl

/-! ## The table of outcomes -/

/-- Redeeming a refresh token from end to end: what is answered when, what it changes, and that it
was the last time. -/
structure RedeemsOnce (d : Deployment) (token : RefreshToken) : Prop where
  invalid_iff : (d.refresh token).1 = .error (.refreshToken .invalid) ↔
    d.store.find? token = none
  alreadyRevoked_iff : (d.refresh token).1 = .error (.refreshToken .alreadyRevoked) ↔
    ∃ record, d.store.find? token = some record ∧ record.isActive = false
  expired_iff : (d.refresh token).1 = .error (.token .expired) ↔
    ∃ record, d.store.find? token = some record ∧ record.isActive = true ∧
      record.expiresAt < d.clock.now
  unchanged : (∀ record, d.store.find? token = some record → record.isActive = false) →
    (d.refresh token).2 = d
  /-- The one change is the revocation. -/
  expired : ∀ record, d.store.find? token = some record → record.isActive = true →
    record.expiresAt < d.clock.now → (d.refresh token).2 = d.revoking token record
  /-- A token with time left is revoked and gives what a login of its holder gives. -/
  redeemed : ∀ record, d.store.find? token = some record → record.isActive = true →
    d.clock.now ≤ record.expiresAt →
      d.refresh token = (d.revoking token record).generate record.context ∧
      (∀ pair, (d.refresh token).1 = .ok pair →
        (d.revoking token record).HasIssuedPair record.context pair (d.refresh token).2) ∧
      ∀ failure, (d.refresh token).1 = .error failure →
        (d.refresh token).2.store = (d.revoking token record).store
  revoked : ∀ record, d.store.find? token = some record → record.isActive = true →
    (d.refresh token).2.store.find? token = some (record.revoke d.clock.now)
  others : ∀ other record, other ≠ token → d.store.find? other = some record →
    (d.refresh token).2.store.find? other = some record
  /-- No command makes the token good again, as long as it is not drawn for the first time. -/
  last : (d.store.find? token = none → ∀ n, d.drawn ≤ n → d.ids n ≠ token) → ∀ commands,
    ∃ failure, (((d.refresh token).2.performAll commands).2.refresh token).1 = .error failure

/-- Every refresh is one row of the table, and no refresh of the same token succeeds after it. -/
theorem refresh_redeemsOnce (d : Deployment) (token : RefreshToken) (hfresh : d.DrawsFresh)
    (hsigner : d.signerWorks = true) (hrefused : d.refused = []) : d.RedeemsOnce token := by
  have h := refresh_redemption hsigner hrefused token
  constructor
  -- issuing fails with other errors than redeeming, so each answer names its row
  case invalid_iff =>
    refine ⟨fun heq => ?_, fun hnone => by rw [(refuses_of_absent hrefused hnone).refresh]⟩
    generalize d.refresh token = outcome at h heq
    cases h with
    | absent hnone => exact hnone
    | inactive => cases heq
    | expired => cases heq
    | redeemed _ _ _ hgenerated => cases hgenerated <;> cases heq
  case alreadyRevoked_iff =>
    refine ⟨fun heq => ?_, ?_⟩
    · generalize d.refresh token = outcome at h heq
      cases h with
      | absent => cases heq
      | inactive hfound hinactive => exact ⟨_, hfound, hinactive⟩
      | expired => cases heq
      | redeemed _ _ _ hgenerated => cases hgenerated <;> cases heq
    · rintro ⟨record, hfound, hinactive⟩
      rw [(refuses_of_inactive hrefused hfound hinactive).refresh]
  case expired_iff =>
    refine ⟨fun heq => ?_, ?_⟩
    · generalize d.refresh token = outcome at h heq
      cases h with
      | absent => cases heq
      | inactive => cases heq
      | expired hfound hactive hexpired => exact ⟨_, hfound, hactive, hexpired⟩
      | redeemed _ _ _ hgenerated => cases hgenerated <;> cases heq
    · rintro ⟨record, hfound, hactive, hexpired⟩
      rw [refresh_of_expired hrefused hfound hactive hexpired]
  case unchanged =>
    intro hinactive
    cases hfound : d.store.find? token with
    | none => rw [(refuses_of_absent hrefused hfound).refresh]
    | some record =>
        rw [(refuses_of_inactive hrefused hfound (hinactive record hfound)).refresh]
  case expired =>
    intro record hfound hactive hexpired
    rw [refresh_of_expired hrefused hfound hactive hexpired]
  case redeemed =>
    intro record hfound hactive hleft
    have hsame := refresh_of_unexpired hrefused hfound hactive hleft
    have hgenerated :=
      generate_generation (d := d.revoking token record) hsigner hrefused record.context
    refine ⟨hsame, fun pair hpair => ?_, fun failure hfailure => ?_⟩
    · rw [hsame] at hpair ⊢
      exact hgenerated.hasIssuedPair hpair
    · rw [hsame] at hfailure ⊢
      exact hgenerated.store_eq hfailure
  case revoked => exact fun record => h.revoked
  case others => exact fun other record => h.others
  case last =>
    intro hnew commands
    have hspent := refresh_isSpent hfresh hsigner hrefused hnew
    have hafter : d.Evolves (d.refresh token).2 := run_evolves _ d
    have hlater := performAll_evolves (d.refresh token).2 commands
    obtain ⟨cause, -, hrefuses⟩ :=
      (hspent.evolve hlater).refuses ((hafter.trans hlater).refused_eq.trans hrefused)
    exact ⟨_, congrArg Prod.fst hrefuses.refresh⟩

/-- One token is presented within its lifetime, another one was revoked before. -/
theorem refresh_within_lifetime_redeemsOnce :
    let ids : Nat → RefreshToken := fun n => ⟨String.ofList (List.replicate n 'a')⟩
    let start : Deployment :=
      { config := ⟨"issuer", ⟨[115]⟩, .ofSeconds 60⟩, refreshLifetime := .ofSeconds 600
        clock := .startingAt .epoch, ids }
    let holder : SecurityContext := ⟨⟨7, by decide, by decide⟩, .user⟩
    let d := (start.performAll [.insert holder, .insert holder, .storeRevoke (ids 1),
      .move (.advance (.ofSeconds 300))]).2
    (d.store.find? (ids 0)).map (·.isActive) = some true ∧
      (d.store.find? (ids 1)).map (·.isActive) = some false ∧
        d.DrawsFresh ∧ d.signerWorks = true ∧ d.refused = [] ∧
          d.RedeemsOnce (ids 0) ∧ d.RedeemsOnce (ids 1) := by
  intro ids start holder d
  have hdistinct : ∀ m n, ids m = ids n → m = n := by
    intro m n heq
    have hlists := String.ofList_injective (congrArg RefreshToken.text heq)
    simpa using congrArg List.length hlists
  have hfresh : d.DrawsFresh := performAll_drawsFresh rfl hdistinct _
  have hrefused : d.refused = [] := (performAll_evolves start _).refused_eq
  exact ⟨by decide, by decide, hfresh, rfl, hrefused,
    refresh_redeemsOnce d (ids 0) hfresh rfl hrefused,
    refresh_redeemsOnce d (ids 1) hfresh rfl hrefused⟩

end Deployment

end SessionTokens
