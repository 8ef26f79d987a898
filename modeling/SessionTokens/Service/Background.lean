import SessionTokens.Service.Deployment

/-! # The reaper in the background

Started, the reaper makes its first cycle as soon as it gets to run and then one after each interval.
It runs only while time passes for the task that started it. A schedule without an interval stops it
at its first turn.

Whoever waits is woken at a whole millisecond, the first at which the wait is over; who waits longer
than the longest wait is woken after that. The intervals themselves are exact, so that no rounding
adds up. At one millisecond the task that sleeps is woken before the reaper.
-/

namespace SessionTokens

open Time

/-- Milliseconds that have passed since a start. -/
abbrev Milliseconds := Int

/-- The first whole millisecond that is no earlier than a time. -/
def Time.Duration.toMilliseconds (time : Duration) : Milliseconds := -((-time.nanos) / 1000000)

/-- The longest wait. -/
def longestWait : Milliseconds := 68719476734

/-- When somebody is woken who waits from a millisecond on until a time. -/
def wakeTime (now : Milliseconds) (deadline : Duration) : Milliseconds :=
  max now (min deadline.toMilliseconds (now + longestWait))

/-- A reaper that was started beside a deployment. -/
structure BackgroundReaper where
  deployment : Deployment
  schedule : ReaperSchedule
  /-- How much time has passed since the start. -/
  elapsed : Milliseconds := 0
  /-- When the next cycle is due, counted from the start. -/
  due : Duration := .zero
  /-- When the reaper is woken for the next cycle. -/
  wakes : Milliseconds := 0
  running : Bool := true

namespace BackgroundReaper

/-- Starts a reaper, unless it is disabled. -/
def start? (deployment : Deployment) (schedule : ReaperSchedule) : Option BackgroundReaper :=
  if schedule.enabled then some { deployment, schedule } else none

/-- One cycle, after which the next one is due an interval later. -/
def cycle (r : BackgroundReaper) : BackgroundReaper :=
  let due : Duration := ⟨r.due.nanos + r.schedule.interval.nanos⟩
  { r with
    deployment := (r.deployment.reap r.schedule.grace).2
    due
    wakes := wakeTime r.wakes due }

/-- Makes the cycles for which the reaper is woken before a time. The fuel bounds their number. -/
def cyclesBefore (time : Milliseconds) : Nat → BackgroundReaper → BackgroundReaper
  | 0, r => r
  | fuel + 1, r => if r.wakes < time then cyclesBefore time fuel r.cycle else r

/-- A bound for the number of cycles within a span. Beside those that are due in it there are at most
those for which the reaper is woken after the longest wait. -/
def cycleBound (r : BackgroundReaper) (span : Milliseconds) : Nat :=
  (span * 1000000 / r.schedule.interval.nanos).toNat + 3

/-- Lets time pass for as long as a sleeper sleeps. -/
def sleep (r : BackgroundReaper) (span : Duration) : BackgroundReaper :=
  let woken := wakeTime r.elapsed ⟨r.elapsed * 1000000 + span.nanos⟩
  let passed := woken - r.elapsed
  let r := { r with elapsed := woken }
  if !r.running || passed = 0 then r
  else if r.schedule.interval.nanos = 0 then { r with running := false }
  else cyclesBefore woken (r.cycleBound passed) r

end BackgroundReaper

end SessionTokens
