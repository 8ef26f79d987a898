import SessionTokens.Proofs.Service.Steps
import SessionTokens.Proofs.Store
import SessionTokens.Service.Interleaving

/-! # How deployments evolve

Whatever the service does and whatever happens beside it, a refresh token becomes known only by
being drawn, and a revoked record does not become active again. Where tokens are drawn without
repetition, a token that was revoked once is therefore spent for good, also when its record is
deleted.
-/

namespace SessionTokens

open Time

namespace Deployment

/-- What becomes of refresh tokens in any number of steps. -/
structure Evolves (before after : Deployment) : Prop where
  ids_eq : after.ids = before.ids
  refused_eq : after.refused = before.refused
  drawn_le : before.drawn ≤ after.drawn
  records : ∀ token kept, after.store.find? token = some kept →
    (∃ record, before.store.find? token = some record ∧
      (kept.isActive = true → record.isActive = true)) ∨
    ∃ n, before.drawn ≤ n ∧ n < after.drawn ∧ before.ids n = token

/-- Refresh tokens that are still to be drawn are distinct, and none of them is in use. -/
structure DrawsFresh (d : Deployment) : Prop where
  distinct : ∀ m n, d.drawn ≤ m → d.drawn ≤ n → d.ids m = d.ids n → m = n
  unused : ∀ n, d.drawn ≤ n → d.store.find? (d.ids n) = none

/-- A token is spent when it will not be drawn again and no record of it is active. -/
structure IsSpent (token : RefreshToken) (d : Deployment) : Prop where
  not_drawn : ∀ n, d.drawn ≤ n → d.ids n ≠ token
  not_active : ∀ record, d.store.find? token = some record → record.isActive = false

theorem DrawsFresh.evolve {before after : Deployment} (hfresh : before.DrawsFresh)
    (h : before.Evolves after) : after.DrawsFresh where
  distinct m n hm hn heq := by
    rw [h.ids_eq] at heq
    exact hfresh.distinct m n (Nat.le_trans h.drawn_le hm) (Nat.le_trans h.drawn_le hn) heq
  unused n hn := by
    rw [h.ids_eq]
    cases hfound : after.store.find? (before.ids n) with
    | none => rfl
    | some kept =>
        rcases h.records _ kept hfound with ⟨record, hrecord, -⟩ | ⟨m, hm, hlt, heq⟩
        · rw [hfresh.unused n (Nat.le_trans h.drawn_le hn)] at hrecord
          cases hrecord
        · -- the token came into use by being drawn before, and is not drawn again
          have hmn := hfresh.distinct m n hm (Nat.le_trans h.drawn_le hn) heq
          omega

theorem IsSpent.evolve {before after : Deployment} {token : RefreshToken}
    (hspent : before.IsSpent token) (h : before.Evolves after) : after.IsSpent token where
  not_drawn n hn := by
    rw [h.ids_eq]
    exact hspent.not_drawn n (Nat.le_trans h.drawn_le hn)
  not_active kept hkept := by
    rcases h.records token kept hkept with ⟨record, hrecord, hactive⟩ | ⟨n, hn, -, heq⟩
    · have hinactive := hspent.not_active record hrecord
      exact Bool.eq_false_iff.mpr fun hkeptActive => by
        rw [hactive hkeptActive] at hinactive
        cases hinactive
    · exact absurd heq (hspent.not_drawn n hn)

/-! ## The steps -/

/-- Only what happens to the store and the drawing of tokens matters. -/
theorem evolves_of_keeps {d : Deployment} {store : Store} (h : d.store.Keeps store)
    (clock : ManualClock) (cache : VerificationCache)
    (signed extracted revokeSweeps deleteSweeps : Nat) :
    d.Evolves { d with store, clock, cache, signed, extracted, revokeSweeps, deleteSweeps } where
  ids_eq := rfl
  refused_eq := rfl
  drawn_le := Nat.le_refl _
  records token kept hkept := by
    obtain ⟨record, hrecord, -, hactive⟩ := h token kept hkept
    exact .inl ⟨record, hrecord, hactive⟩

theorem evolves_refl (d : Deployment) : d.Evolves d :=
  evolves_of_keeps d.store.keeps_refl ..

theorem unlessRefused_keeps {store : Store} {d : Deployment} {operation : StoreOperation}
    {act : Deployment → Except DomainError α × Deployment} (hrefused : store.Keeps d.store)
    (hdone : store.Keeps (act d).2.store) :
    store.Keeps (d.unlessRefused operation act).2.store :=
  unlessRefused_elim (fun after => store.Keeps after.store) hrefused hdone

theorem insertAt_evolves (d : Deployment) (reading : Instant) (context : SecurityContext) :
    d.Evolves (d.insertAt reading context).2 := by
  refine unlessRefused_elim d.Evolves d.evolves_refl ?_
  refine ⟨rfl, rfl, Nat.le_succ _, fun token kept hkept => ?_⟩
  by_cases hdrawn : token = d.ids d.drawn
  · exact .inr ⟨d.drawn, Nat.le_refl _, Nat.lt_succ_self _, hdrawn.symm⟩
  · rw [Store.find?_insert hdrawn] at hkept
    exact .inl ⟨kept, hkept, id⟩

theorem storeRevoke_evolves (d : Deployment) (token : RefreshToken) :
    d.Evolves (d.storeRevoke token).2 :=
  unlessRefused_elim d.Evolves d.evolves_refl
    (evolves_of_keeps (d.store.apply_keeps (.revoke d.clock.now token) rfl) ..)

theorem prolongAt_evolves (d : Deployment) (reading : Instant) (token : RefreshToken) :
    d.Evolves (d.prolongAt reading token).2 :=
  unlessRefused_elim d.Evolves d.evolves_refl
    (evolves_of_keeps (d.store.apply_keeps (.prolong d.refreshLifetime reading token) rfl) ..)

theorem revokeExpiredAt_evolves (d : Deployment) (reading : Instant) :
    d.Evolves (d.revokeExpiredAt reading).2 :=
  unlessRefused_elim d.Evolves (evolves_of_keeps d.store.keeps_refl ..)
    (evolves_of_keeps (d.store.apply_keeps (.revokeExpired reading) rfl) ..)

theorem deleteExpiredForAt_evolves (d : Deployment) (reading : Instant) (span : Duration) :
    d.Evolves (d.deleteExpiredForAt reading span).2 :=
  unlessRefused_elim d.Evolves (evolves_of_keeps d.store.keeps_refl ..)
    (evolves_of_keeps (d.store.apply_keeps (.deleteExpiredFor span reading) rfl) ..)

/-- No step of any conversation does more to refresh tokens than that. -/
theorem step_evolves (d : Deployment) (script : Script α) (cacheFirst : Bool) (reading : Instant) :
    d.Evolves (script.step (collaboratorsAt reading) cacheFirst d).2 := by
  cases script with
  | done result => exact d.evolves_refl
  | readClock next => exact d.evolves_refl
  | sign claims secret next => exact evolves_of_keeps d.store.keeps_refl ..
  | extract token secret next => exact evolves_of_keeps d.store.keeps_refl ..
  | consult token next => exact evolves_of_keeps d.store.keeps_refl ..
  | remember token context expiresAt next => exact evolves_of_keeps d.store.keeps_refl ..
  | insert context next => exact d.insertAt_evolves reading context
  | insertAndRemember context token expiresAt next =>
      cases cacheFirst with
      | true => exact evolves_of_keeps d.store.keeps_refl ..
      | false => exact d.insertAt_evolves reading context
  | revoke token next => exact d.storeRevoke_evolves token

theorem storeRevoke_counts (d : Deployment) (token : RefreshToken) :
    (d.storeRevoke token).2.signed = d.signed ∧ (d.storeRevoke token).2.drawn = d.drawn := by
  unfold storeRevoke unlessRefused
  split
  next => exact ⟨rfl, rfl⟩
  next => exact ⟨rfl, rfl⟩

/-- An operation that succeeds was not refused. -/
theorem unlessRefused_eq_ok {d : Deployment} {operation : StoreOperation}
    {act : Deployment → Except DomainError α × Deployment} {result : α}
    (h : (d.unlessRefused operation act).1 = .ok result) :
    d.unlessRefused operation act = act d := by
  unfold unlessRefused at h ⊢
  split at h
  next => cases h
  next hnot => rw [if_neg hnot]

/-- A revocation that succeeds has found an active record, and revokes it at the reading of the
clock. -/
theorem storeRevoke_eq_ok {d : Deployment} {token : RefreshToken} {revoked : Record}
    (h : (d.storeRevoke token).1 = .ok revoked) :
    ∃ record, d.store.find? token = some record ∧ record.isActive = true ∧
      revoked = record.revoke d.clock.now ∧
      (d.storeRevoke token).2.store.find? token = some (record.revoke d.clock.now) := by
  have hdone := unlessRefused_eq_ok h
  rw [storeRevoke, hdone] at h ⊢
  rcases d.store.revoke_cases d.clock.now token with
    ⟨record, hfound, hactive, heq⟩ | ⟨cause, -, heq⟩
  · simp only [heq, Except.ok.injEq] at h ⊢
    exact ⟨record, hfound, hactive, h.symm, Store.find?_replace_self hfound _⟩
  · simp only [heq] at h
    cases h

/-- A revocation that fails leaves the store as it was. -/
theorem storeRevoke_eq_error {d : Deployment} {token : RefreshToken} {failure : DomainError}
    (h : (d.storeRevoke token).1 = .error failure) :
    (d.storeRevoke token).2.store = d.store := by
  unfold storeRevoke unlessRefused at h ⊢
  split at h
  next hrefused => rw [if_pos hrefused]
  next hnot =>
    rw [if_neg hnot]
    rcases d.store.revoke_cases d.clock.now token with ⟨record, -, -, heq⟩ | ⟨cause, -, heq⟩
    · simp only [heq] at h
      cases h
    · simp only [heq]

/-- A revocation succeeds on an active record, of which it leaves the token spent, or it changes
nothing at all. -/
theorem storeRevoke_cases {d : Deployment} (hrevokes : .revoke ∉ d.refused)
    (hfresh : d.DrawsFresh) (token : RefreshToken) :
    (∃ record, d.store.find? token = some record ∧ record.isActive = true ∧
      (d.storeRevoke token).1 = .ok (record.revoke d.clock.now) ∧
      (d.storeRevoke token).2.store.find? token = some (record.revoke d.clock.now) ∧
      (d.storeRevoke token).2.IsSpent token) ∨
    (∃ cause, (cause = .invalid ∨ cause = .alreadyRevoked) ∧
      d.storeRevoke token = (.error (.refreshToken cause), d)) := by
  have hnot : d.refused.contains .revoke = false := by simpa using hrevokes
  unfold storeRevoke unlessRefused
  simp only [hnot, Bool.false_eq_true, if_false]
  rcases d.store.revoke_cases d.clock.now token with
    ⟨record, hfound, hactive, heq⟩ | ⟨cause, hcause, heq⟩
  · -- the token is in use, so that it is none of those still to be drawn
    refine .inl ⟨record, hfound, hactive, ?_⟩
    have hleft := Store.find?_replace_self hfound (record.revoke d.clock.now)
    rw [heq]
    refine ⟨rfl, hleft, fun n hn hid => ?_, fun kept hkept => ?_⟩
    · have hunused := hfresh.unused n hn
      rw [hid, hfound] at hunused
      cases hunused
    · rw [hleft] at hkept
      cases hkept
      rfl
  · refine .inr ⟨cause, hcause, ?_⟩
    rw [heq]

/-! ## Whole runs -/

theorem Evolves.trans {before between after : Deployment} (h : before.Evolves between)
    (hnext : between.Evolves after) : before.Evolves after where
  ids_eq := hnext.ids_eq.trans h.ids_eq
  refused_eq := hnext.refused_eq.trans h.refused_eq
  drawn_le := Nat.le_trans h.drawn_le hnext.drawn_le
  records token kept hkept := by
    rcases hnext.records token kept hkept with ⟨record, hrecord, hactive⟩ | ⟨n, hn, hlt, hid⟩
    · rcases h.records token record hrecord with ⟨first, hfirst, hwas⟩ | ⟨n, hn, hlt, hid⟩
      · exact .inl ⟨first, hfirst, fun hkeptActive => hwas (hactive hkeptActive)⟩
      · exact .inr ⟨n, hn, Nat.lt_of_lt_of_le hlt hnext.drawn_le, hid⟩
    · rw [h.ids_eq] at hid
      exact .inr ⟨n, Nat.le_trans h.drawn_le hn, hlt, hid⟩

theorem evolves_holdsStepwise : HoldsStepwise Evolves where
  trans := Evolves.trans
  beside d _ _ _ _ _ _ _ := ⟨rfl, rfl, Nat.le_refl _, d.evolves_refl.records⟩
  insert d context := d.insertAt_evolves d.clock.now context
  storeRevoke := storeRevoke_evolves
  prolong d token := d.prolongAt_evolves d.clock.now token
  revokeExpired d := d.revokeExpiredAt_evolves d.clock.now
  deleteExpiredFor d span := d.deleteExpiredForAt_evolves d.clock.now span

theorem run_evolves (script : Script α) (d : Deployment) :
    d.Evolves (script.run collaborators d).2 :=
  evolves_holdsStepwise.run script d

theorem reap_evolves (d : Deployment) (grace : Duration) : d.Evolves (d.reap grace).2 :=
  evolves_holdsStepwise.reap d grace

theorem performAll_evolves (d : Deployment) (commands : List Command) :
    d.Evolves (d.performAll commands).2 :=
  evolves_holdsStepwise.performAll d commands

/-- What is reached without records to begin with and with distinct tokens to draw draws fresh
tokens. -/
theorem performAll_drawsFresh {start : Deployment} (hempty : start.store = .empty)
    (hdistinct : ∀ m n, start.ids m = start.ids n → m = n) (commands : List Command) :
    (start.performAll commands).2.DrawsFresh := by
  have hstart : start.DrawsFresh := by
    refine ⟨fun m n _ _ heq => hdistinct m n heq, ?_⟩
    intro n _
    rw [hempty]
    rfl
  exact hstart.evolve (start.performAll_evolves commands)

end Deployment

end SessionTokens
