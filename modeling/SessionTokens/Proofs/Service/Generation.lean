import SessionTokens.Proofs.Jwt.RoundTrip
import SessionTokens.Proofs.Service.Reaping

/-! # Issuing a pair of tokens

Issuing has two effects that are started together: the store takes a record and the cache an
identity. The record, the claims that were signed and the pair that is answered agree with one
another, and where there is no record there is no pair. Nothing is started at all when the access
token would expire beyond the representable instants.
-/

namespace SessionTokens

open Time

/-! ## Insertion into the store -/

/-- The record of a token that is issued now, until an expiry. -/
def Record.issuedUntil (token : RefreshToken) (context : SecurityContext) (now expiresAt : Instant) :
    Record where
  token
  user := context.user
  role := context.role
  issuedAt := now
  expiresAt
  revokedAt := none

namespace Store

variable {store : Store} {lifetime : Duration} {now expiresAt : Instant} {fresh : RefreshToken}

theorem insert_of_fresh (hexpiry : now.add? lifetime = some expiresAt)
    (hfresh : store.find? fresh = none) (context : SecurityContext) :
    store.insert lifetime now fresh context =
      (.ok (.issuedUntil fresh context now expiresAt),
        store.push (.issuedUntil fresh context now expiresAt) hfresh) := by
  simp only [insert, Record.issue, hexpiry]
  exact dif_pos hfresh

theorem insert_of_repeated (hexpiry : now.add? lifetime = some expiresAt)
    (hfound : store.find? fresh ≠ none) (context : SecurityContext) :
    store.insert lifetime now fresh context =
      (.error (.storage "Refresh token already exists"), store) := by
  simp only [insert, Record.issue, hexpiry]
  exact dif_neg hfound

theorem insert_of_no_expiry (hexpiry : now.add? lifetime = none) (context : SecurityContext) :
    store.insert lifetime now fresh context = (.error (.token .generationFailed), store) := by
  simp only [insert, Record.issue, hexpiry]

theorem size_push (record : Record) (h : store.find? record.token = none) :
    (store.push record h).size = store.size + 1 := by
  simp [push, size]

end Store

namespace Deployment

variable {d : Deployment} {context : SecurityContext}

/-! ## The course of issuing -/

/-- What is claimed for a holder now, until an expiry. -/
def claimsUntil (d : Deployment) (context : SecurityContext) (expiresAt : Instant) : Claims where
  issuer := d.config.issuer
  subject := context.user.display
  audience := context.user.display
  role := context.role.name
  issuedAt := d.clock.now
  expiresAt

theorem insert_eq (hrefused : d.refused = []) (context : SecurityContext) :
    d.insert context =
      ((d.store.insert d.refreshLifetime d.clock.now (d.ids d.drawn) context).1,
        { d with
          store := (d.store.insert d.refreshLifetime d.clock.now (d.ids d.drawn) context).2
          drawn := d.drawn + 1 }) := by
  rw [insert, insertAt, unlessRefused_eq hrefused]

theorem generate_of_no_access_expiry
    (haccess : d.clock.now.add? d.config.accessLifetime = none) (context : SecurityContext) :
    d.generate context = (.error (.token .generationFailed), d) := by
  simp only [generate, TokenService.generate, Script.run, collaborators, Claims.forContext, haccess,
    TokenService.failing]

/-- With an access token to be had, the answer is the one of the store, and the cache is given the
identity whatever that answer is. -/
theorem generate_eq (hsigner : d.signerWorks = true) (hrefused : d.refused = [])
    {expiresAt : Instant} (haccess : d.clock.now.add? d.config.accessLifetime = some expiresAt)
    (context : SecurityContext) :
    let inserted := d.store.insert d.refreshLifetime d.clock.now (d.ids d.drawn) context
    let accessToken := Jwt.sign (d.claimsUntil context expiresAt) d.config.secret
    d.generate context =
      (inserted.1.map fun record => {
          refreshToken := record.token
          accessToken
          accessExpiresAt := expiresAt
          refreshExpiresAt := record.expiresAt },
        { d with
          store := inserted.2
          cache := (d.cache.put d.clock.now accessToken context expiresAt).2
          signed := d.signed + 1
          drawn := d.drawn + 1 }) := by
  intro inserted accessToken
  have hsigned : d.sign (d.claimsUntil context expiresAt) d.config.secret =
      (.ok accessToken, { d with signed := d.signed + 1 }) := by
    simp only [sign, hsigner, if_true]
    rfl
  have hinserted : Deployment.insert { d with signed := d.signed + 1 } context =
      (inserted.1,
        { d with store := inserted.2, signed := d.signed + 1, drawn := d.drawn + 1 }) :=
    insert_eq (d := { d with signed := d.signed + 1 }) hrefused context
  have hclaims : Claims.forContext d.config.issuer context d.clock.now d.config.accessLifetime =
      .ok (d.claimsUntil context expiresAt) := by
    simp only [Claims.forContext, haccess]
    rfl
  simp only [generate, TokenService.generate, Script.run, collaborators, hclaims, hsigned,
    TokenService.deliver, hinserted]
  cases inserted.1 <;> rfl

/-! ## What is issued -/

/-- A pair of tokens was issued: its record is the only change to the store, and what its access
token says is what the pair says. -/
structure HasIssuedPair (before : Deployment) (context : SecurityContext) (pair : TokenPair)
    (after : Deployment) : Prop where
  accessExpiry : before.clock.now.add? before.config.accessLifetime = some pair.accessExpiresAt
  refreshExpiry : before.clock.now.add? before.refreshLifetime = some pair.refreshExpiresAt
  claims : Jwt.extract pair.accessToken before.config.secret =
    .ok (before.claimsUntil context pair.accessExpiresAt.floorSecond)
  token : pair.refreshToken = before.ids before.drawn
  unused : before.store.find? pair.refreshToken = none
  record : after.store.find? pair.refreshToken =
    some (.issuedUntil pair.refreshToken context before.clock.now pair.refreshExpiresAt)
  others : ∀ token, token ≠ pair.refreshToken →
    after.store.find? token = before.store.find? token
  size : after.store.size = before.store.size + 1

/-- How issuing a pair of tokens ends. -/
inductive Generation (d : Deployment) (context : SecurityContext) :
    Except DomainError TokenPair × Deployment → Prop
  | issued {pair : TokenPair} {after : Deployment} :
      d.HasIssuedPair context pair after → Generation d context (.ok pair, after)
  | noAccessExpiry : d.clock.now.add? d.config.accessLifetime = none →
      Generation d context (.error (.token .generationFailed), d)
  | noRefreshExpiry {after : Deployment} : (d.clock.now.add? d.config.accessLifetime).isSome →
      d.clock.now.add? d.refreshLifetime = none → after.store = d.store →
        Generation d context (.error (.token .generationFailed), after)
  | repeated {after : Deployment} : (d.clock.now.add? d.config.accessLifetime).isSome →
      d.store.find? (d.ids d.drawn) ≠ none → after.store = d.store →
        Generation d context (.error (.storage "Refresh token already exists"), after)

/-- The clock reads whole seconds, so that only the expiry of a token loses a part of a second. -/
theorem extract_claimsUntil (d : Deployment) (context : SecurityContext) (expiresAt : Instant) :
    Jwt.extract (Jwt.sign (d.claimsUntil context expiresAt) d.config.secret) d.config.secret =
      .ok (d.claimsUntil context expiresAt.floorSecond) := by
  have hnow : d.clock.now.floorSecond = d.clock.now :=
    Jwt.floorSecond_eq_self_iff.mpr d.clock.isWhole
  rw [Jwt.extract_sign_eq]
  simp only [ClaimsOver.mapTime, claimsUntil, hnow]

theorem generate_generation (hsigner : d.signerWorks = true) (hrefused : d.refused = [])
    (context : SecurityContext) : d.Generation context (d.generate context) := by
  cases haccess : d.clock.now.add? d.config.accessLifetime with
  | none =>
      rw [generate_of_no_access_expiry haccess]
      exact .noAccessExpiry haccess
  | some accessExpiresAt =>
      have haccessSome : (d.clock.now.add? d.config.accessLifetime).isSome := by
        rw [haccess]
        rfl
      rw [generate_eq hsigner hrefused haccess]
      cases hrefresh : d.clock.now.add? d.refreshLifetime with
      | none =>
          rw [Store.insert_of_no_expiry hrefresh]
          exact .noRefreshExpiry haccessSome hrefresh rfl
      | some refreshExpiresAt =>
          by_cases hfresh : d.store.find? (d.ids d.drawn) = none
          · rw [Store.insert_of_fresh hrefresh hfresh]
            refine .issued {
              accessExpiry := haccess
              refreshExpiry := hrefresh
              claims := d.extract_claimsUntil context accessExpiresAt
              token := rfl
              unused := hfresh
              record := ?_
              others := fun token hother => ?_
              size := Store.size_push _ hfresh }
            · exact (Store.find?_push _ _ hfresh _).trans (if_pos rfl)
            · exact (Store.find?_push _ _ hfresh _).trans (if_neg hother)
          · rw [Store.insert_of_repeated hrefresh hfresh]
            exact .repeated haccessSome hfresh rfl

theorem Generation.hasIssuedPair {outcome : Except DomainError TokenPair × Deployment}
    (h : d.Generation context outcome) {pair : TokenPair} (hpair : outcome.1 = .ok pair) :
    d.HasIssuedPair context pair outcome.2 := by
  cases h with
  | issued h =>
      cases hpair
      exact h
  | noAccessExpiry => cases hpair
  | noRefreshExpiry => cases hpair
  | repeated => cases hpair

theorem Generation.store_eq {outcome : Except DomainError TokenPair × Deployment}
    (h : d.Generation context outcome) {failure : DomainError}
    (hfailure : outcome.1 = .error failure) : outcome.2.store = d.store := by
  cases h with
  | issued => cases hfailure
  | noAccessExpiry => rfl
  | noRefreshExpiry _ _ hstore => exact hstore
  | repeated _ _ hstore => exact hstore

/-- Issuing a pair of tokens from end to end. -/
structure GeneratesPair (d : Deployment) (context : SecurityContext) : Prop where
  succeeds_iff : (∃ pair, (d.generate context).1 = .ok pair) ↔
    (d.clock.now.add? d.config.accessLifetime).isSome ∧
      (d.clock.now.add? d.refreshLifetime).isSome ∧ d.store.find? (d.ids d.drawn) = none
  issued : ∀ pair, (d.generate context).1 = .ok pair →
    d.HasIssuedPair context pair (d.generate context).2
  store_of_failure : ∀ failure, (d.generate context).1 = .error failure →
    (d.generate context).2.store = d.store
  /-- Without an expiry of the access token, neither the store nor the cache nor anything else is
  changed. -/
  unchanged : d.clock.now.add? d.config.accessLifetime = none → (d.generate context).2 = d

/-- A pair is issued exactly if both expiries can be represented and the drawn token is new. The
record of the refresh token is then the one change to the store, and otherwise there is none. -/
theorem generate_generatesPair (d : Deployment) (context : SecurityContext)
    (hsigner : d.signerWorks = true) (hrefused : d.refused = []) : d.GeneratesPair context := by
  have h := generate_generation hsigner hrefused context
  constructor
  case succeeds_iff =>
    generalize d.generate context = outcome at h
    cases h with
    | @issued pair after h =>
        refine ⟨fun _ => ⟨?_, ?_, ?_⟩, fun _ => ⟨pair, rfl⟩⟩
        · rw [h.accessExpiry]
          rfl
        · rw [h.refreshExpiry]
          rfl
        · rw [← h.token]
          exact h.unused
    | noAccessExpiry haccess => simp [haccess]
    | noRefreshExpiry _ hrefresh => simp [hrefresh]
    | repeated _ hfound => simp [hfound]
  case issued => exact fun pair => h.hasIssuedPair
  case store_of_failure => exact fun failure => h.store_eq
  case unchanged =>
    intro haccess
    rw [generate_of_no_access_expiry haccess]

/-- A deployment in the last minute of the representable instants: an access token of ten seconds
can still be issued, and a refresh token of thirty. -/
theorem generate_at_the_end_generatesPair :
    let d : Deployment :=
      { config := ⟨"issuer", ⟨[115]⟩, .ofSeconds 10⟩, refreshLifetime := .ofSeconds 30
        clock := .startingAt ⟨8210266876750000000000, by decide, by decide⟩ }
    let holder : SecurityContext := ⟨⟨7, by decide, by decide⟩, .user⟩
    d.signerWorks = true ∧ d.refused = [] ∧ d.GeneratesPair holder ∧
      ∃ pair, (d.generate holder).1 = .ok pair := by
  intro d holder
  have h := generate_generatesPair d holder rfl rfl
  exact ⟨rfl, rfl, h, h.succeeds_iff.mpr ⟨by decide, by decide, rfl⟩⟩

end Deployment

end SessionTokens
