import SessionTokens.Service.Interleaving

/-! # How a conversation is conducted

Between two calls of a conversation anything may happen to the deployment. What is said of a
conversation therefore counts only on an assumption that holds of every deployment that answers it.
The conversation goes through stages: each call moves it from one stage to another, and it ends in a
stage that its result fits.
-/

namespace SessionTokens.Script

open Time Deployment

variable {α β γ : Type}

theorem step_map (f : α → β) (c : Collaborators σ) (cacheFirst : Bool) (script : Script α)
    (world : σ) :
    (script.map f).step c cacheFirst world =
      ((script.step c cacheFirst world).1.map f, (script.step c cacheFirst world).2) := by
  cases script with
  | insertAndRemember context token expiresAt next => cases cacheFirst <;> rfl
  | _ => rfl

/-- A conversation in a stage. As long as it is not over, its next call moves it to another stage,
whichever deployment that satisfies the assumption answers the call. -/
inductive Conducts (assumed : Deployment → Prop)
    (move : γ → Deployment → Deployment → γ → Prop) (ends : γ → α → Prop) :
    γ → Script α → Prop
  | finished {stage : γ} {result : α} :
      ends stage result → Conducts assumed move ends stage (.done result)
  | goesOn {stage : γ} {script : Script α} (next : Deployment → Bool → Instant → γ) :
      (∀ result, script ≠ .done result) →
      (∀ d cacheFirst reading, assumed d →
        move stage d (script.step (collaboratorsAt reading) cacheFirst d).2
          (next d cacheFirst reading)) →
      (∀ d cacheFirst reading, assumed d →
        Conducts assumed move ends (next d cacheFirst reading)
          (script.step (collaboratorsAt reading) cacheFirst d).1) →
      Conducts assumed move ends stage script

namespace Conducts

variable {assumed : Deployment → Prop} {move : γ → Deployment → Deployment → γ → Prop}
  {ends : γ → α → Prop} {stage : γ} {script : Script α}

theorem map {f : α → β} {asked : γ → β → Prop} (h : Conducts assumed move ends stage script)
    (hasked : ∀ stage result, ends stage result → asked stage (f result)) :
    Conducts assumed move asked stage (script.map f) := by
  induction h with
  | finished hends => exact .finished (hasked _ _ hends)
  | @goesOn stage script next hopen hmoves _ ih =>
      refine .goesOn next ?_ ?_ ?_
      · intro result heq
        cases script with
        | done result => exact hopen result rfl
        | _ => cases heq
      · intro d cacheFirst reading hd
        rw [step_map]
        exact hmoves d cacheFirst reading hd
      · intro d cacheFirst reading hd
        rw [step_map]
        exact ih d cacheFirst reading hd

/-- The next call moves the conversation on. One that is over stays in its stage. -/
theorem step (h : Conducts assumed move ends stage script)
    (hstays : ∀ stage d, assumed d → move stage d d stage) {d : Deployment} (hd : assumed d)
    (cacheFirst : Bool) (reading : Instant) :
    ∃ next, move stage d (script.step (collaboratorsAt reading) cacheFirst d).2 next ∧
      Conducts assumed move ends next
        (script.step (collaboratorsAt reading) cacheFirst d).1 := by
  cases h with
  | finished hends => exact ⟨stage, hstays stage d hd, .finished hends⟩
  | goesOn next _ hmoves hgoes =>
      exact ⟨next d cacheFirst reading, hmoves d cacheFirst reading hd,
        hgoes d cacheFirst reading hd⟩

theorem ends_of_done {result : α} (h : Conducts assumed move ends stage (.done result)) :
    ends stage result := by
  cases h with
  | finished hends => exact hends
  | goesOn _ hopen => exact absurd rfl (hopen result)

end Conducts

end SessionTokens.Script
