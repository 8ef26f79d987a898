import SessionTokens.Service.Deployment

/-! # What holds over every step of a deployment

A command is made of calls on the store and of what leaves the store and the drawing of tokens
alone. A relation between deployments that holds over each of these, one after the other, holds over
commands in any number.
-/

namespace SessionTokens.Deployment

open Time

/-- A relation that holds from before to after everything that commands are made of. -/
structure HoldsStepwise (R : Deployment → Deployment → Prop) : Prop where
  trans : ∀ {before between after}, R before between → R between after → R before after
  /-- The store and the drawing of tokens are left alone. -/
  beside : ∀ (d : Deployment) config clock cache signed extracted revokeSweeps deleteSweeps,
    R d { d with config, clock, cache, signed, extracted, revokeSweeps, deleteSweeps }
  insert : ∀ d context, R d (d.insert context).2
  storeRevoke : ∀ d token, R d (d.storeRevoke token).2
  prolong : ∀ d token, R d (d.prolong token).2
  revokeExpired : ∀ d, R d d.revokeExpired.2
  deleteExpiredFor : ∀ d span, R d (d.deleteExpiredFor span).2

/-- A store operation does what it does, or it is refused and nothing happens. -/
theorem unlessRefused_elim {d : Deployment} {operation : StoreOperation}
    {act : Deployment → Except DomainError α × Deployment} (motive : Deployment → Prop)
    (hrefused : motive d) (hdone : motive (act d).2) :
    motive (d.unlessRefused operation act).2 := by
  unfold unlessRefused
  split
  next => exact hrefused
  next => exact hdone

namespace HoldsStepwise

variable {R : Deployment → Deployment → Prop}

theorem run (h : HoldsStepwise R) (script : Script α) (d : Deployment) :
    R d (script.run collaborators d).2 := by
  induction script generalizing d with
  | done result => exact h.beside d ..
  | readClock next ih => exact ih _ d
  | sign claims secret next ih => exact h.trans (h.beside d ..) (ih _ _)
  | extract token secret next ih => exact h.trans (h.beside d ..) (ih _ _)
  | consult token next ih => exact h.trans (h.beside d ..) (ih _ _)
  | remember token context expiresAt next ih => exact h.trans (h.beside d ..) (ih _ _)
  | insert context next ih => exact h.trans (h.insert d context) (ih _ _)
  | insertAndRemember context token expiresAt next ih =>
      have hremembered : R (d.insert context).2
          ((d.insert context).2.remember token context expiresAt).2 := h.beside _ ..
      exact h.trans (h.trans (h.insert d context) hremembered) (ih _ _ _)
  | revoke token next ih => exact h.trans (h.storeRevoke d token) (ih _ _)

theorem race (h : HoldsStepwise R) (d : Deployment) (token : RefreshToken) (times : Nat) :
    R d (d.race token times).2 := by
  induction times generalizing d with
  | zero => exact h.beside d ..
  | succ times ih => exact h.trans (h.run _ d) (ih (d.refresh token).2)

theorem reap (h : HoldsStepwise R) (d : Deployment) (grace : Duration) : R d (d.reap grace).2 :=
  h.trans (h.revokeExpired d) (h.deleteExpiredFor d.revokeExpired.2 grace)

theorem reply (h : HoldsStepwise R) (d : Deployment) (command : Command) :
    R d (d.reply command).2 := by
  cases command with
  | move m =>
      simp only [Deployment.reply]
      split
      next => exact h.beside d ..
      next => exact h.beside d ..
  | generate context => exact h.run (TokenService.generate d.config context) d
  | verify token => exact h.run (TokenService.verify d.config token) d
  | refresh token => exact h.run (TokenService.refresh d.config token) d
  | revoke token => exact h.run (TokenService.revoke token) d
  | race token times => exact h.race d token times
  | insert context => exact h.insert d context
  | storeRevoke token => exact h.storeRevoke d token
  | find token => exact h.beside d ..
  | prolong token => exact h.prolong d token
  | revokeExpired => exact h.revokeExpired d
  | deleteExpired span => exact h.deleteExpiredFor d span
  | reap grace => exact h.reap d grace
  | remember token context expiresAt => exact h.beside d ..
  | consult token => exact h.beside d ..
  | forget token => exact h.beside d ..
  | rotate config => exact h.beside d ..

theorem performAll (h : HoldsStepwise R) (d : Deployment) (commands : List Command) :
    R d (d.performAll commands).2 := by
  induction commands generalizing d with
  | nil => exact h.beside d ..
  | cons command rest ih =>
      -- settling the cache leaves the store as it is
      have hsettled : R (d.reply command).2 (d.perform command).2 := h.beside _ ..
      exact h.trans (h.trans (h.reply d command) hsettled) (ih (d.perform command).2)

end HoldsStepwise

end SessionTokens.Deployment
