import SessionTokens.Store.Operation

/-! # A store that calls wait for

Calls hold the store one after the other. Most of them read the clock before they ask for the store,
and work with that reading however old it is when they are given the store. Only a revocation reads
the clock while it holds the store. In what order the waiting calls are given the store is open.
-/

namespace SessionTokens

open Time

/-- A call on a store. What issues a record brings the token that it issues it under. -/
inductive StoreCall where
  | insert (fresh : RefreshToken) (context : SecurityContext)
  | find (token : RefreshToken)
  | revoke (token : RefreshToken)
  | prolong (token : RefreshToken)
  | revokeExpired
  | deleteExpiredFor (span : Duration)
  deriving Repr

/-- What a call does with the store once it holds it, given the reading of the clock from before it
waited and the one that the clock gives now. -/
def StoreCall.operation (lifetime : Duration) (earlier now : Instant) :
    StoreCall → Store.Operation
  | .insert fresh context => .insert lifetime earlier fresh context
  | .find token => .find token
  | .revoke token => .revoke now token
  | .prolong token => .prolong lifetime earlier token
  | .revokeExpired => .revokeExpired earlier
  | .deleteExpiredFor span => .deleteExpiredFor span earlier

/-- A call that waits for the store, with the reading of the clock from before it did. -/
structure WaitingCall where
  call : StoreCall
  reading : Instant
  deriving Repr

/-- A store whose records live for a fixed time, with the reading of its clock and the calls that
wait for it. -/
structure SharedStore where
  lifetime : Duration
  now : Instant
  store : Store := .empty
  waiting : List WaitingCall := []

namespace SharedStore

/-- What can happen to a shared store. -/
inductive Turn where
  /-- The clock shows a time. -/
  | showTime (time : Instant)
  /-- A call reads the clock and asks for the store. -/
  | ask (call : StoreCall)
  /-- One of the waiting calls is given the store and is done with it. -/
  | hold (place : Nat)
  deriving Repr

/-- Takes a turn. -/
def take (s : SharedStore) : Turn → SharedStore
  | .showTime time => { s with now := time }
  | .ask call => { s with waiting := s.waiting ++ [⟨call, s.now⟩] }
  | .hold place =>
      match s.waiting[place]? with
      | none => s
      | some waiting =>
          { s with
            store := s.store.apply (waiting.call.operation s.lifetime waiting.reading s.now)
            waiting := s.waiting.eraseIdx place }

/-- Takes turns in order. -/
def run (s : SharedStore) (turns : List Turn) : SharedStore := turns.foldl take s

/-- The clock is never moved back. -/
def KeepsTime (s : SharedStore) : List Turn → Prop
  | [] => True
  | turn :: rest => s.now ≤ (s.take turn).now ∧ KeepsTime (s.take turn) rest

/-- Decides whether the clock is never moved back. -/
def decideKeepsTime (s : SharedStore) : (turns : List Turn) → Decidable (s.KeepsTime turns)
  | [] => .isTrue trivial
  | turn :: rest =>
      have := (s.take turn).decideKeepsTime rest
      inferInstanceAs (Decidable (_ ∧ _))

instance (s : SharedStore) (turns : List Turn) : Decidable (s.KeepsTime turns) :=
  s.decideKeepsTime turns

end SharedStore

end SessionTokens
