import SessionTokens.Time.Instant

/-! # A clock that is moved by hand

The clock reads whole seconds only: setting or moving it drops what is left of a second. A move
that would leave the representable instants fails and leaves the clock where it was.
-/

namespace SessionTokens.Time

/-- A clock whose reading changes only by `set` and `advance?`. -/
structure ManualClock where
  now : Instant
  isWhole : now.IsWhole
  deriving DecidableEq, Repr

namespace ManualClock

/-- A clock that starts at the whole second of an instant. -/
def startingAt (t : Instant) : ManualClock := ⟨t.floorSecond, t.floorSecond_isWhole⟩

/-- Sets the clock to the whole second of an instant. -/
def set (_clock : ManualClock) (t : Instant) : ManualClock := ⟨t.floorSecond, t.floorSecond_isWhole⟩

/-- Moves the clock by a span, which may be negative. -/
def advance? (clock : ManualClock) (d : Duration) : Option ManualClock :=
  (clock.now.add? d).map fun t => ⟨t.floorSecond, t.floorSecond_isWhole⟩

/-- One movement of the clock. -/
inductive Move where
  | set (time : Instant)
  | advance (span : Duration)
  deriving Repr

/-- The clock after a movement, or `none` when the movement fails. -/
def move? (clock : ManualClock) : Move → Option ManualClock
  | .set t => some (clock.set t)
  | .advance d => clock.advance? d

/-- The clock after a movement: a failed movement leaves it as it was. -/
def afterMove (clock : ManualClock) (m : Move) : ManualClock := (clock.move? m).getD clock

/-- What the clock shows after each of some movements, and whether the movement was possible. -/
def readings (clock : ManualClock) : List Move → List (Bool × Instant)
  | [] => []
  | m :: rest =>
      ((clock.move? m).isSome, (clock.afterMove m).now) :: (clock.afterMove m).readings rest

end ManualClock

end SessionTokens.Time
