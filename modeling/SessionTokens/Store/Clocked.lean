import SessionTokens.Store.Sharing
import SessionTokens.Time.ManualClock

/-! # A shared store whose clock is moved by hand

The clock is moved while calls wait for the store. A movement that fails leaves the clock and all
the calls as they were.
-/

namespace SessionTokens

open Time

/-- A shared store with the clock that its calls read. -/
structure ClockedStore where
  clock : ManualClock
  shared : SharedStore

namespace ClockedStore

/-- A store without records. -/
def starting (clock : ManualClock) (lifetime : Duration) : ClockedStore where
  clock
  shared := { lifetime, now := clock.now }

/-- What can happen to a store whose clock is moved by hand. -/
inductive Event where
  | move (m : ManualClock.Move)
  /-- A call reads the clock and asks for the store. -/
  | ask (call : StoreCall)
  /-- One of the waiting calls is given the store and is done with it. -/
  | hold (place : Nat)
  deriving Repr

/-- The store after an event. -/
def take (s : ClockedStore) : Event → ClockedStore
  | .move m =>
      { clock := s.clock.afterMove m
        shared := s.shared.take (.showTime (s.clock.afterMove m).now) }
  | .ask call => { s with shared := s.shared.take (.ask call) }
  | .hold place => { s with shared := s.shared.take (.hold place) }

/-- The store after events in order. -/
def run (s : ClockedStore) (events : List Event) : ClockedStore := events.foldl take s

end ClockedStore

end SessionTokens
