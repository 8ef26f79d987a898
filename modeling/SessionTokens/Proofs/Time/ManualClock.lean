import SessionTokens.Time.ManualClock

/-! # A clock that counts whole seconds

What a clock shows that is moved by hand is told by counting whole seconds: setting it takes the
last whole second of the instant, a span adds its whole seconds, rounded down, and nothing that is
left of a second is kept for later. A span that leads out of the representable instants counts for
nothing.
-/

namespace SessionTokens.Time

/-- The whole seconds of a span, rounded down. -/
def Duration.floorSeconds (d : Duration) : Int := d.nanos / nanosPerSecond

namespace ManualClock

/-- Counts the whole seconds that a clock shows after each of some movements, and tells whether the
movement was possible. -/
def countSeconds (second : Int) : List Move → List (Bool × Int)
  | [] => []
  | .set t :: rest => (true, t.second) :: countSeconds t.second rest
  | .advance d :: rest =>
      if (Instant.ofNanos? (second * nanosPerSecond + d.nanos)).isSome then
        (true, second + d.floorSeconds) :: countSeconds (second + d.floorSeconds) rest
      else (false, second) :: countSeconds second rest

variable {clock : ManualClock} {second : Int}

theorem startingAt_nanos (t : Instant) : (startingAt t).now.nanos = t.second * nanosPerSecond := rfl

theorem set_nanos (clock : ManualClock) (t : Instant) :
    (clock.set t).now.nanos = t.second * nanosPerSecond := rfl

theorem floor_add_second (second nanos : Int) :
    (second * nanosPerSecond + nanos) / nanosPerSecond = second + nanos / nanosPerSecond := by
  unfold nanosPerSecond
  omega

/-- Where it is possible, a movement by a span adds the whole seconds of the span, rounded down. -/
theorem advance?_of_sum (hclock : clock.now.nanos = second * nanosPerSecond) {d : Duration}
    {sum : Instant} (hsum : Instant.ofNanos? (second * nanosPerSecond + d.nanos) = some sum) :
    ∃ later, clock.advance? d = some later ∧
      later.now.nanos = (second + d.floorSeconds) * nanosPerSecond := by
  have hadd : clock.now.add? d = some sum := by rwa [Instant.add?, hclock]
  refine ⟨⟨sum.floorSecond, sum.floorSecond_isWhole⟩, by rw [advance?, hadd, Option.map_some], ?_⟩
  show sum.nanos / nanosPerSecond * nanosPerSecond = _
  rw [Instant.ofNanos?_eq_some.mp hsum, floor_add_second, Duration.floorSeconds]

theorem advance?_of_no_sum (hclock : clock.now.nanos = second * nanosPerSecond) {d : Duration}
    (hsum : Instant.ofNanos? (second * nanosPerSecond + d.nanos) = none) :
    clock.advance? d = none := by
  have hadd : clock.now.add? d = none := by rwa [Instant.add?, hclock]
  rw [advance?, hadd, Option.map_none]

/-- From a whole second on, what a clock shows are the seconds that are counted. -/
theorem readings_eq_countSeconds (hclock : clock.now.nanos = second * nanosPerSecond)
    (moves : List Move) :
    (clock.readings moves).map (Prod.map id Instant.nanos) =
      (countSeconds second moves).map (Prod.map id (· * nanosPerSecond)) := by
  induction moves generalizing clock second with
  | nil => rfl
  | cons m rest ih =>
      rw [readings, List.map_cons]
      cases m with
      | set t =>
          rw [countSeconds, List.map_cons]
          exact congrArg _ (ih (clock.set_nanos t))
      | advance d =>
          rw [countSeconds]
          cases hsum : Instant.ofNanos? (second * nanosPerSecond + d.nanos) with
          | none =>
              have hmove : clock.move? (.advance d) = none := advance?_of_no_sum hclock hsum
              have hafter : clock.afterMove (.advance d) = clock := by rw [afterMove, hmove]; rfl
              simp [hmove, hafter, hclock, ih hclock]
          | some sum =>
              obtain ⟨later, hlater, hnanos⟩ := advance?_of_sum hclock hsum
              have hmove : clock.move? (.advance d) = some later := hlater
              have hafter : clock.afterMove (.advance d) = later := by rw [afterMove, hmove]; rfl
              simp [hmove, hafter, hnanos, ih hnanos]

/-- The shortest step back takes a whole second away, and an impossible one nothing. -/
example :
    let start : Instant := ⟨750000000, by decide, by decide⟩
    let t : Instant := ⟨42999999999, by decide, by decide⟩
    ((startingAt start).readings [.advance ⟨-1⟩, .advance (.ofSeconds 9000000000000), .set t]).map
        (Prod.map id Instant.nanos) =
      [(true, -1000000000), (false, -1000000000), (true, 42000000000)] := by
  decide

end ManualClock

end SessionTokens.Time
