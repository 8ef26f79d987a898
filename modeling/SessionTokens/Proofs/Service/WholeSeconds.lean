import SessionTokens.Proofs.Service.Steps
import SessionTokens.Proofs.Store.WholeSeconds

/-! # Everything that reads a manual clock runs in whole seconds

Whatever instants a manual clock is set to and whatever spans it is moved by, it shows the whole
seconds that are counted. So it is in whole seconds that a store on the clock issues and revokes,
whether its calls come one after the other or wait for each other, and whether or not they come
through the service.
-/

namespace SessionTokens

open Time

namespace Deployment

theorem unlessRefused_isStampedInSeconds {d : Deployment} {refusable : StoreOperation}
    {act : Deployment → Except DomainError α × Deployment} (operation : Store.Operation)
    (hreading : operation.reading? = some d.clock.now)
    (hact : (act d).2.store = d.store.apply operation) (h : d.store.IsStampedInSeconds) :
    (d.unlessRefused refusable act).2.store.IsStampedInSeconds := by
  refine unlessRefused_elim (fun after => after.store.IsStampedInSeconds) h ?_
  rw [hact]
  refine h.apply fun reading hwith => ?_
  cases hreading.symm.trans hwith
  exact d.clock.isWhole

/-- Nothing that commands are made of stamps other times than whole seconds. -/
theorem isStampedInSeconds_holdsStepwise :
    HoldsStepwise fun before after =>
      before.store.IsStampedInSeconds → after.store.IsStampedInSeconds where
  trans hfirst hnext h := hnext (hfirst h)
  beside _ _ _ _ _ _ _ _ h := h
  insert d context :=
    unlessRefused_isStampedInSeconds
      (.insert d.refreshLifetime d.clock.now (d.ids d.drawn) context) rfl rfl
  storeRevoke d token := unlessRefused_isStampedInSeconds (.revoke d.clock.now token) rfl rfl
  prolong d token :=
    unlessRefused_isStampedInSeconds (.prolong d.refreshLifetime d.clock.now token) rfl rfl
  revokeExpired d :=
    unlessRefused_isStampedInSeconds (d := { d with revokeSweeps := d.revokeSweeps + 1 })
      (.revokeExpired d.clock.now) rfl rfl
  deleteExpiredFor d span := by
    refine unlessRefused_isStampedInSeconds (d := { d with deleteSweeps := d.deleteSweeps + 1 })
      (.deleteExpiredFor span d.clock.now) rfl ?_
    rfl

end Deployment

namespace Time.ManualClock

/-- What runs on a manual clock from a start: the clock shows the whole seconds that are counted, and
all records of a store on it were issued and revoked at whole seconds, in whatever order calls read
the clock and are given the store, and whatever a service with that store is told to do. -/
structure RunsInSeconds (start : Instant) : Prop where
  starts : (startingAt start).now.nanos = start.second * nanosPerSecond
  shows : ∀ moves, ((startingAt start).readings moves).map (Prod.map id Instant.nanos) =
    (countSeconds start.second moves).map (Prod.map id (· * nanosPerSecond))
  stores : ∀ lifetime events,
    ((ClockedStore.starting (startingAt start) lifetime).run events).shared.store.IsStampedInSeconds
  deployments : ∀ d : Deployment, d.clock = startingAt start → d.store = .empty → ∀ commands,
    (d.performAll commands).2.store.IsStampedInSeconds

/-- From whichever instant it starts, a manual clock and what reads it run in whole seconds. -/
theorem startingAt_runsInSeconds (start : Instant) : RunsInSeconds start where
  starts := startingAt_nanos start
  shows := readings_eq_countSeconds (startingAt_nanos start)
  stores lifetime events := ((ClockedStore.starting_isInSeconds _ lifetime).run events).store
  deployments d _ hempty commands :=
    Deployment.isStampedInSeconds_holdsStepwise.performAll d commands
      (hempty ▸ Store.empty_isStampedInSeconds)

end Time.ManualClock

end SessionTokens
