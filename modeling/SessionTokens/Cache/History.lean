import SessionTokens.Cache.Lru

/-! # What happens to a cache

Calls are made on a cache one after the other. Between two of them the clock may be moved in either
direction, lives may end, and the cache may drop entries. What a call can be answered is described by the events
before it alone: which of them was the last one to store or to remove an identity under the token.
-/

namespace SessionTokens

open Time

/-- A call on a cache. -/
inductive CacheCall where
  | put (token : AccessToken) (context : SecurityContext) (expiresAt : Instant)
  | get (token : AccessToken)
  | revoke (token : AccessToken)
  deriving Repr

namespace CacheCall

/-- The token that a call is about. -/
def token : CacheCall → AccessToken
  | .put token _ _ | .get token | .revoke token => token

/-- Makes a call at a reading of the clock. -/
def make (call : CacheCall) (now : Instant) (cache : LruCache) :
    Option SecurityContext × LruCache :=
  match call with
  | .put token context expiresAt => cache.put now token context expiresAt
  | .get token => cache.get now token
  | .revoke token => cache.revoke now token

end CacheCall

/-- What can happen to a cache. -/
inductive CacheEvent where
  /-- The clock shows a time. -/
  | showTime (time : Instant)
  | call (call : CacheCall)
  /-- The cache drops the entries of some tokens. -/
  | drop (dropped : AccessToken → Bool)
  /-- The lives of the entries of some tokens end. -/
  | lapse (lapsed : AccessToken → Bool)
  /-- The cache drops what its budget has no room for. -/
  | settle

/-- Whether an event stores or removes an identity under a token. -/
def CacheEvent.writes (token : AccessToken) : CacheEvent → Bool
  | .call (.put written _ _) | .call (.revoke written) => written = token
  | _ => false

/-- The last of some events that wrote under a token stored an identity until an expiry. -/
def LastStored (token : AccessToken) (context : SecurityContext) (expiresAt : Instant)
    (events : List CacheEvent) : Prop :=
  ∃ before after, events = before ++ .call (.put token context expiresAt) :: after ∧
    ∀ event ∈ after, event.writes token = false

/-- A cache with the reading of its clock. -/
structure ClockedCache where
  now : Instant
  cache : LruCache
  deriving DecidableEq, Repr

namespace ClockedCache

/-- The cache after an event. -/
def take (c : ClockedCache) : CacheEvent → ClockedCache
  | .showTime time => { c with now := time }
  | .call call => { c with cache := (call.make c.now c.cache).2 }
  | .drop dropped => { c with cache := c.cache.drop dropped }
  | .lapse lapsed => { c with cache := c.cache.lapse fun token _ => lapsed token }
  | .settle => { c with cache := c.cache.settle }

/-- The cache after events in order. -/
def run (c : ClockedCache) (events : List CacheEvent) : ClockedCache := events.foldl take c

/-- What a call is answered. -/
def answer (c : ClockedCache) (call : CacheCall) : Option SecurityContext :=
  (call.make c.now c.cache).1

/-- An event drops nothing that is still accepted. An entry without any life counts as dropped, for
it is never found. -/
def LosesNothing (c : ClockedCache) : CacheEvent → Prop
  | .drop dropped => c.cache.drop dropped = c.cache
  | .lapse lapsed => (c.cache.lapse fun token _ => lapsed token) = c.cache
  | .settle => c.cache.settle = c.cache
  | .call (.put _ _ expiresAt) => c.now ≤ expiresAt →
      .zero < remainingLife c.cache.timeToLive expiresAt c.now
  | _ => True

/-- Nothing is dropped, and the clock is never moved back. -/
def IsUndisturbed (c : ClockedCache) : List CacheEvent → Prop
  | [] => True
  | event :: rest =>
      (c.LosesNothing event ∧ c.now ≤ (c.take event).now) ∧ (c.take event).IsUndisturbed rest

end ClockedCache

end SessionTokens
