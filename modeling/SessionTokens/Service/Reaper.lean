import SessionTokens.Store

/-! # Reaping refresh tokens

A cycle makes two sweeps over the store: it revokes what has expired and deletes what has been
expired for a grace. A sweep that fails is reported and does not stop the other.
-/

namespace SessionTokens

open Time

/-- When the reaper runs and what it keeps. -/
structure ReaperSchedule where
  enabled : Bool
  interval : Duration
  grace : Duration
  deriving DecidableEq, Repr

/-- The schedule of a reaper that was not configured: every day, keeping tokens for thirty days. -/
def ReaperSchedule.default : ReaperSchedule := ⟨true, .ofSeconds 86400, .ofSeconds 2592000⟩

/-- What a cycle did. -/
structure ReapReport where
  revoked : Nat
  deleted : Nat
  errors : List String
  deriving DecidableEq, Repr

namespace ReapReport

/-- Whether no sweep failed. -/
def isSuccess (report : ReapReport) : Bool := report.errors.isEmpty

/-- The report of two sweeps. A sweep that failed counts nothing. -/
def ofSweeps (revoked deleted : Except DomainError Nat) : ReapReport :=
  let failures (what : String) : Except DomainError Nat → List String
    | .ok _ => []
    | .error failure => [what ++ " expired error: " ++ failure.message]
  { revoked := revoked.toOption.getD 0
    deleted := deleted.toOption.getD 0
    errors := failures "Revoke" revoked ++ failures "Delete" deleted }

end ReapReport

/-- One cycle over a store at one reading of the clock. -/
def Store.reap (store : Store) (grace : Duration) (now : Instant) : ReapReport × Store :=
  let (revoked, store) := store.revokeExpired now
  let (deleted, store) := store.deleteExpiredFor grace now
  (.ofSweeps (.ok revoked) (.ok deleted), store)

end SessionTokens
