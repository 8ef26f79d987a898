import SessionTokens.Proofs.Service.Evolution

/-! # What a conversation may still issue

Issuing a pair of tokens takes one signature and one refresh token. The predicate here bounds, for
any point of a conversation, what of both it may still take, and says how it may end; each step
keeps it with bounds that are smaller by what the step took.
-/

namespace SessionTokens

open Time

/-- How issuing a pair can fail: there is no representable expiry or no signature, or the store
was made to refuse. -/
def IssuanceFails (refused : List StoreOperation) (failure : DomainError) : Prop :=
  failure = .token .generationFailed ∨
    (.insert ∈ refused ∧ failure = StoreOperation.insert.refusal)

namespace Deployment

theorem insertAt_eq_error {d : Deployment} (hfresh : d.DrawsFresh) {reading : Instant}
    {context : SecurityContext} {failure : DomainError}
    (h : (d.insertAt reading context).1 = .error failure) : IssuanceFails d.refused failure := by
  unfold insertAt unlessRefused at h
  split at h
  next hrefused =>
    cases h
    exact .inr ⟨by simpa using hrefused, rfl⟩
  next => exact .inl (Store.insert_eq_error (hfresh.unused d.drawn (Nat.le_refl _)) h)

theorem insertAt_counts (d : Deployment) (reading : Instant) (context : SecurityContext) :
    (d.insertAt reading context).2.signed = d.signed ∧
      (d.insertAt reading context).2.drawn ≤ d.drawn + 1 := by
  unfold insertAt unlessRefused
  split
  next => exact ⟨rfl, Nat.le_succ _⟩
  next => exact ⟨rfl, Nat.le_refl _⟩

end Deployment

namespace Script

/-- A conversation that revokes nothing, takes at most a number of signatures and at most a number
of refresh tokens, and ends with a wanted result, given how inserting may fail. -/
inductive Issues (failures : DomainError → Prop) (wanted : α → Prop) :
    Nat → Nat → Script α → Prop
  | done {signatures draws : Nat} {result : α} :
      wanted result → Issues failures wanted signatures draws (.done result)
  | readClock {signatures draws : Nat} {next : Instant → Script α} :
      (∀ now, Issues failures wanted signatures draws (next now)) →
        Issues failures wanted signatures draws (.readClock next)
  | sign {signatures draws : Nat} {claims : Claims} {secret : TokenSecret}
      {next : Except TokenError AccessToken → Script α} :
      (∀ answer, Issues failures wanted signatures draws (next answer)) →
        Issues failures wanted (signatures + 1) draws (.sign claims secret next)
  | remember {signatures draws : Nat} {token : AccessToken} {context : SecurityContext}
      {expiresAt : Instant} {next : Except DomainError (Option SecurityContext) → Script α} :
      (∀ answer, Issues failures wanted signatures draws (next answer)) →
        Issues failures wanted signatures draws (.remember token context expiresAt next)
  | insert {signatures draws : Nat} {context : SecurityContext}
      {next : Except DomainError Record → Script α} :
      (∀ answer, (∀ failure, answer = .error failure → failures failure) →
        Issues failures wanted signatures draws (next answer)) →
          Issues failures wanted signatures (draws + 1) (.insert context next)
  | insertAndRemember {signatures draws : Nat} {token : AccessToken} {context : SecurityContext}
      {expiresAt : Instant}
      {next : Except DomainError Record → Except DomainError (Option SecurityContext) → Script α} :
      (∀ inserted remembered, (∀ failure, inserted = .error failure → failures failure) →
        Issues failures wanted signatures draws (next inserted remembered)) →
          Issues failures wanted signatures (draws + 1)
            (.insertAndRemember context token expiresAt next)

namespace Issues

variable {failures : DomainError → Prop}

theorem map {f : α → β} {wanted : α → Prop} {asked : β → Prop} {signatures draws : Nat}
    {script : Script α} (h : Issues failures wanted signatures draws script)
    (hasked : ∀ result, wanted result → asked (f result)) :
    Issues failures asked signatures draws (script.map f) := by
  induction h with
  | done hwanted => exact .done (hasked _ hwanted)
  | readClock _ ih => exact .readClock ih
  | sign _ ih => exact .sign ih
  | remember _ ih => exact .remember ih
  | insert _ ih => exact .insert ih
  | insertAndRemember _ ih => exact .insertAndRemember ih

/-- What a step takes is no longer there to be taken. -/
theorem step {wanted : α → Prop} {signatures draws : Nat} {script : Script α} {d : Deployment}
    (h : Issues (IssuanceFails d.refused) wanted signatures draws script) (hfresh : d.DrawsFresh)
    (cacheFirst : Bool) (reading : Instant) :
    ∃ fewerSignatures fewerDraws,
      Issues (IssuanceFails d.refused) wanted fewerSignatures fewerDraws
        (script.step (Deployment.collaboratorsAt reading) cacheFirst d).1 ∧
      fewerSignatures +
        ((script.step (Deployment.collaboratorsAt reading) cacheFirst d).2.signed - d.signed) ≤
          signatures ∧
      fewerDraws +
        ((script.step (Deployment.collaboratorsAt reading) cacheFirst d).2.drawn - d.drawn) ≤
          draws := by
  have hcounts := d.insertAt_counts reading
  have hfails : ∀ context failure, (d.insertAt reading context).1 = .error failure →
      IssuanceFails d.refused failure :=
    fun _ _ hfailed => Deployment.insertAt_eq_error hfresh hfailed
  cases h with
  | done hwanted => exact ⟨signatures, draws, .done hwanted, by simp [Script.step]⟩
  | readClock hnext => exact ⟨signatures, draws, hnext _, by simp [Script.step]⟩
  | @sign fewer _ claims secret next hnext =>
      refine ⟨fewer, draws, hnext _, ?_⟩
      simp [Script.step, Deployment.collaboratorsAt, Deployment.collaborators, Deployment.sign]
  | remember hnext =>
      refine ⟨signatures, draws, hnext _, ?_⟩
      simp [Script.step, Deployment.collaboratorsAt, Deployment.collaborators, Deployment.remember]
  | @insert _ fewer context next hnext =>
      refine ⟨signatures, fewer, hnext _ (hfails context), ?_⟩
      obtain ⟨hsigned, hdrawn⟩ := hcounts context
      simp only [Script.step, Deployment.collaboratorsAt]
      omega
  | @insertAndRemember _ fewer token context expiresAt next hnext =>
      -- whichever of the two calls comes first, the other one is left to be made
      cases cacheFirst with
      | true =>
          refine ⟨signatures, fewer + 1, .insert fun inserted hinserted => hnext _ _ hinserted, ?_⟩
          simp [Script.step, Deployment.collaboratorsAt, Deployment.collaborators,
            Deployment.remember]
      | false =>
          refine ⟨signatures, fewer, .remember fun _ => hnext _ _ (hfails context), ?_⟩
          obtain ⟨hsigned, hdrawn⟩ := hcounts context
          simp only [Script.step, Deployment.collaboratorsAt, Bool.false_eq_true, if_false]
          omega

end Issues

end Script

namespace TokenService

open Script

/-- Generating a pair takes one signature and one refresh token at most. -/
theorem generate_issues {refused : List StoreOperation} (config : ServiceConfig)
    (context : SecurityContext) :
    Issues (IssuanceFails refused)
      (fun result => ∀ failure, result = .error failure → IssuanceFails refused failure) 1 1
      (generate config context) := by
  have hfailing : ∀ signatures draws, Issues (IssuanceFails refused)
      (fun result : Except DomainError TokenPair =>
        ∀ failure, result = .error failure → IssuanceFails refused failure) signatures draws
      (failing .generationFailed) := by
    intro signatures draws
    refine .done fun failure heq => ?_
    cases heq
    exact .inl rfl
  refine .readClock fun issuedAt => ?_
  split
  next cause hclaims =>
    have hcause : cause = .generationFailed := by
      unfold Claims.forContext at hclaims
      split at hclaims
      next => cases hclaims; rfl
      next => cases hclaims
    rw [hcause]
    exact hfailing 1 1
  next claims hclaims =>
    refine .sign fun signed => ?_
    split
    next => exact hfailing 0 1
    next accessToken =>
      refine .insertAndRemember fun inserted _ hinserted => .done fun failure heq => ?_
      split at heq
      next cause =>
        cases heq
        exact hinserted _ rfl
      next => cases heq

end TokenService

end SessionTokens
