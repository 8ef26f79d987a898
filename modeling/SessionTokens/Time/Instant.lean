/-! # Points of time and spans between them

An instant counts nanoseconds from the start of 1970 in UTC. Instants reach over the years -262143
to 262142, whole nanoseconds included; arithmetic that leaves them has no result. A duration is a
signed number of nanoseconds without bound.

Points of time within a leap second, written with a second 60, have no place in this count and are
left out. The clock of a system never reads one, since it counts the same nanoseconds, and no span
leads into one from outside. So a clock could show one only if it was set to it by hand, and clocks
are set to instants here. Where a leap second can be written and read, in the records of tokens, it
is kept as a `Timestamp`.
-/

namespace SessionTokens.Time

/-- Nanoseconds in a second. -/
abbrev nanosPerSecond : Int := 1000000000

/-- A signed span of time. -/
structure Duration where
  nanos : Int
  deriving DecidableEq, Repr, Inhabited

namespace Duration

/-- A span of whole seconds. -/
def ofSeconds (seconds : Int) : Duration := ⟨seconds * nanosPerSecond⟩

/-- The span of no length. -/
def zero : Duration := ⟨0⟩

/-- The whole seconds of a span, truncated toward zero. -/
def wholeSeconds (d : Duration) : Int := d.nanos.tdiv nanosPerSecond

/-- The longest span, in seconds, that a configured number of seconds may name. -/
def longestSeconds : Int := 9223372036854775

/-- A span of whole seconds, if it is short enough to be named. -/
def ofSeconds? (seconds : Int) : Option Duration :=
  if -longestSeconds ≤ seconds ∧ seconds ≤ longestSeconds then some (ofSeconds seconds) else none

instance : LE Duration := ⟨fun a b => a.nanos ≤ b.nanos⟩
instance : LT Duration := ⟨fun a b => a.nanos < b.nanos⟩
instance (a b : Duration) : Decidable (a ≤ b) := inferInstanceAs (Decidable (a.nanos ≤ b.nanos))
instance (a b : Duration) : Decidable (a < b) := inferInstanceAs (Decidable (a.nanos < b.nanos))

end Duration

/-- A representable point of time. -/
structure Instant where
  /-- Nanoseconds since the start of 1970. -/
  nanos : Int
  earliest_le : -8334601228800000000000 ≤ nanos
  le_latest : nanos ≤ 8210266876799999999999
  deriving DecidableEq, Repr

namespace Instant

instance : LE Instant := ⟨fun a b => a.nanos ≤ b.nanos⟩
instance : LT Instant := ⟨fun a b => a.nanos < b.nanos⟩
instance (a b : Instant) : Decidable (a ≤ b) := inferInstanceAs (Decidable (a.nanos ≤ b.nanos))
instance (a b : Instant) : Decidable (a < b) := inferInstanceAs (Decidable (a.nanos < b.nanos))

/-- Two instants are equal when they count the same nanoseconds. -/
@[ext] theorem ext {a b : Instant} (h : a.nanos = b.nanos) : a = b := by
  cases a; cases b; cases h; rfl

theorem le_def {a b : Instant} : a ≤ b ↔ a.nanos ≤ b.nanos := Iff.rfl

theorem lt_def {a b : Instant} : a < b ↔ a.nanos < b.nanos := Iff.rfl

theorem not_le {a b : Instant} : ¬ a ≤ b ↔ b < a := Int.not_le

theorem not_lt {a b : Instant} : ¬ a < b ↔ b ≤ a := Int.not_lt

/-- The start of 1970. -/
def epoch : Instant := ⟨0, by decide, by decide⟩

instance : Inhabited Instant := ⟨epoch⟩

/-- The last representable instant. -/
def latest : Instant := ⟨8210266876799999999999, by decide, by decide⟩

/-- The instant of a number of nanoseconds, if it is representable. -/
def ofNanos? (nanos : Int) : Option Instant :=
  if h : -8334601228800000000000 ≤ nanos ∧ nanos ≤ 8210266876799999999999 then
    some ⟨nanos, h.1, h.2⟩
  else none

/-- The instant of a number of whole seconds, if it is representable. -/
def ofSeconds? (seconds : Int) : Option Instant := ofNanos? (seconds * nanosPerSecond)

/-- The instant a span later. -/
def add? (t : Instant) (d : Duration) : Option Instant := ofNanos? (t.nanos + d.nanos)

/-- The instant a span earlier. -/
def sub? (t : Instant) (d : Duration) : Option Instant := ofNanos? (t.nanos - d.nanos)

/-- The span from an earlier instant to this one. -/
def since (t earlier : Instant) : Duration := ⟨t.nanos - earlier.nanos⟩

/-- The last whole second at or before an instant, counted from the start of 1970. -/
def second (t : Instant) : Int := t.nanos / nanosPerSecond

/-- The nanoseconds of an instant within its second. -/
def subsecond (t : Instant) : Int := t.nanos % nanosPerSecond

/-- The last whole second at or before an instant. -/
def floorSecond (t : Instant) : Instant where
  nanos := t.nanos / nanosPerSecond * nanosPerSecond
  earliest_le := by
    have h := t.earliest_le
    unfold nanosPerSecond
    omega
  le_latest := by
    have h := t.le_latest
    unfold nanosPerSecond
    omega

/-- Whether an instant names a whole second. -/
def IsWhole (t : Instant) : Prop := t.nanos % nanosPerSecond = 0

instance (t : Instant) : Decidable t.IsWhole := inferInstanceAs (Decidable (_ = _))

theorem ofNanos?_eq_some {nanos : Int} {t : Instant} : ofNanos? nanos = some t ↔ t.nanos = nanos := by
  unfold ofNanos?
  split
  next h =>
    constructor
    · intro heq; cases heq; rfl
    · intro heq; subst heq; rfl
  next h =>
    constructor
    · intro heq; cases heq
    · intro heq
      subst heq
      exact absurd ⟨t.earliest_le, t.le_latest⟩ h

theorem add?_eq_some {t u : Instant} {d : Duration} :
    t.add? d = some u ↔ u.nanos = t.nanos + d.nanos := ofNanos?_eq_some

theorem sub?_eq_some {t u : Instant} {d : Duration} :
    t.sub? d = some u ↔ u.nanos = t.nanos - d.nanos := ofNanos?_eq_some

theorem floorSecond_isWhole (t : Instant) : t.floorSecond.IsWhole := by
  simp [IsWhole, floorSecond, Int.mul_emod_left]

theorem floorSecond_le (t : Instant) : t.floorSecond ≤ t := by
  simp only [le_def, floorSecond, nanosPerSecond]
  omega

end Instant

end SessionTokens.Time
