import SessionTokens.Service.Reaper

/-! # Cycles of the reaper side by side

Any number of cycles are made over one store. Each of them revokes what has expired before it
deletes what has been expired for its grace; between its two sweeps other cycles may make theirs.
The sweeps are kept with the stores before and after them.
-/

namespace SessionTokens

open Time

/-- How far a cycle has come. -/
inductive ReapProgress where
  | waiting
  | revoked (count : Nat)
  | ended (report : ReapReport)
  deriving DecidableEq, Repr

/-- A cycle of the reaper. -/
structure ReaperCycle where
  grace : Duration
  progress : ReapProgress := .waiting
  deriving DecidableEq, Repr

namespace ReaperCycle

/-- Whether a cycle has made both of its sweeps. -/
def isOver (cycle : ReaperCycle) : Bool :=
  match cycle.progress with
  | .ended _ => true
  | _ => false

/-- How many records a cycle says that it has revoked. -/
def revoked (cycle : ReaperCycle) : Nat :=
  match cycle.progress with
  | .waiting => 0
  | .revoked count => count
  | .ended report => report.revoked

/-- How many records a cycle says that it has deleted. -/
def deleted (cycle : ReaperCycle) : Nat :=
  match cycle.progress with
  | .ended report => report.deleted
  | _ => 0

/-- The sum of a count over cycles. -/
def total (count : ReaperCycle → Nat) : List ReaperCycle → Nat
  | [] => 0
  | cycle :: rest => count cycle + total count rest

/-- Makes the next sweep of a cycle. A cycle that is over makes none. -/
def sweep (cycle : ReaperCycle) (now : Instant) (store : Store) : ReaperCycle × Store :=
  match cycle.progress with
  | .waiting =>
      let (count, store) := store.revokeExpired now
      ({ cycle with progress := .revoked count }, store)
  | .revoked count =>
      let (deleted, store) := store.deleteExpiredFor cycle.grace now
      ({ cycle with progress := .ended (.ofSweeps (.ok count) (.ok deleted)) }, store)
  | .ended _ => (cycle, store)

/-- A cycle that nobody comes between is one cycle of the reaper. -/
theorem sweep_sweep (grace : Duration) (now : Instant) (store : Store) :
    ((sweep { grace } now store).1.sweep now (sweep { grace } now store).2) =
      ({ grace, progress := .ended (store.reap grace now).1 }, (store.reap grace now).2) :=
  rfl

end ReaperCycle

/-- A sweep that a cycle has made, with the stores before and after it. -/
structure Sweep where
  cycle : Nat
  before : Store
  after : Store

namespace Sweep

/-- The tokens that were active until a sweep revoked them. -/
def revoked (sweep : Sweep) : List RefreshToken :=
  (sweep.before.rows.map Prod.fst).filter fun token =>
    (sweep.before.find? token).any (·.isActive) && (sweep.after.find? token).any (!·.isActive)

/-- The tokens of which a sweep deleted the records. -/
def deleted (sweep : Sweep) : List RefreshToken :=
  (sweep.before.rows.map Prod.fst).filter fun token => (sweep.after.find? token).isNone

end Sweep

/-- Cycles that share a store, and the sweeps that they have made, the latest first. -/
structure Overlap where
  store : Store
  cycles : List ReaperCycle
  sweeps : List Sweep := []

namespace Overlap

/-- Cycles with the given graces are about to be made over a store. -/
def start (store : Store) (graces : List Duration) : Overlap where
  store
  cycles := graces.map fun grace => { grace }

/-- One of the cycles makes its next sweep. -/
def sweep (now : Instant) (s : Overlap) (index : Nat) : Overlap :=
  match s.cycles[index]? with
  | none => s
  | some cycle =>
      let (cycle, store) := cycle.sweep now s.store
      { store
        cycles := s.cycles.set index cycle
        sweeps := ⟨index, s.store, store⟩ :: s.sweeps }

/-- The cycles make their sweeps in an order, which names a cycle for each sweep. -/
def run (now : Instant) (s : Overlap) (order : List Nat) : Overlap := order.foldl (sweep now) s

/-- How many records the cycles say that they have revoked. -/
def revoked (s : Overlap) : Nat := ReaperCycle.total ReaperCycle.revoked s.cycles

/-- How many records the cycles say that they have deleted. -/
def deleted (s : Overlap) : Nat := ReaperCycle.total ReaperCycle.deleted s.cycles

/-- The sweeps of a cycle. -/
def sweepsOf (s : Overlap) (index : Nat) : List Sweep :=
  s.sweeps.filter fun sweep => sweep.cycle = index

end Overlap

end SessionTokens
