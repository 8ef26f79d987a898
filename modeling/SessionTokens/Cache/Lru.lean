import SessionTokens.Text.Utf8
import SessionTokens.Token.Claims

/-! # A bounded memory of verified tokens

The cache remembers for whom a token was verified, together with the expiry of the token. It never
answers past that expiry. What it holds may be dropped at any time; dropping is a step of its own,
so that every other operation is exact. Entries are kept in the order of their last use.
-/

namespace SessionTokens

open Time

/-- What a cached entry costs beside the text of its token. -/
def entryOverhead : Nat := 32

/-- The weight of an entry whose token has a number of bytes, capped at 32 bits. -/
def entryWeight (tokenBytes : Nat) : Nat := min (tokenBytes + entryOverhead) 4294967295

/-- The weight of an entry for a token. -/
def AccessToken.weight (token : AccessToken) : Nat :=
  entryWeight (Text.Utf8.size token.text.toList)

/-- For how long an entry may be kept that is stored now: the time to live, cut short one second
after the expiry of its token, through which the token is accepted. -/
def remainingLife (timeToLive : Duration) (expiresAt now : Instant) : Duration :=
  let validUntil := (expiresAt.add? (.ofSeconds 1)).getD expiresAt
  let left := validUntil.since now
  if left.nanos < 0 then .zero else if left ≤ timeToLive then left else timeToLive

/-- A verified identity with the expiry of its token, and for how long it may be kept. An entry
without any life is held until it is removed or dropped, but not found. The clock that lives are
measured by is not the one by which tokens expire, so that a life may end at any time. -/
structure CacheEntry where
  context : SecurityContext
  expiresAt : Instant
  life : Duration
  deriving DecidableEq, Repr

namespace CacheEntry

/-- Whether the token of an entry is still accepted. -/
def isLive (entry : CacheEntry) (now : Instant) : Bool := decide (now ≤ entry.expiresAt)

/-- Whether an entry has any life. -/
def isKept (entry : CacheEntry) : Bool := decide (.zero < entry.life)

/-- The identity of an entry that is still accepted. -/
def live? (entry : CacheEntry) (now : Instant) : Option SecurityContext :=
  if entry.isLive now then some entry.context else none

end CacheEntry

/-- A cache with a budget of weight, whose entries are listed from the most recently used one. -/
structure LruCache where
  budget : Nat
  timeToLive : Duration
  entries : List (AccessToken × CacheEntry)
  deriving DecidableEq, Repr

namespace LruCache

/-- A cache without entries. -/
def empty (budget : Nat) (timeToLive : Duration) : LruCache := ⟨budget, timeToLive, []⟩

/-- The entry of a token that can be found. -/
def entry? (cache : LruCache) (token : AccessToken) : Option CacheEntry :=
  (cache.entries.lookup token).filter CacheEntry.isKept

/-- The entries of all other tokens. -/
def without (cache : LruCache) (token : AccessToken) : List (AccessToken × CacheEntry) :=
  cache.entries.filter fun (key, _) => key != token

/-- Drops the entries for which a condition holds. -/
def drop (cache : LruCache) (p : AccessToken → Bool) : LruCache :=
  { cache with entries := cache.entries.filter fun (key, _) => !p key }

/-- Ends the lives of the entries for which a condition holds. -/
def lapse (cache : LruCache) (p : AccessToken → CacheEntry → Bool) : LruCache :=
  { cache with
    entries := cache.entries.map fun (token, entry) =>
      (token, if p token entry then { entry with life := .zero } else entry) }

/-- Stores an identity and gives the one it replaces, if that is still accepted. -/
def put (cache : LruCache) (now : Instant) (token : AccessToken) (context : SecurityContext)
    (expiresAt : Instant) : Option SecurityContext × LruCache :=
  let entry : CacheEntry :=
    ⟨context, expiresAt, remainingLife cache.timeToLive expiresAt now⟩
  ((cache.entry? token).bind (·.live? now),
    { cache with entries := (token, entry) :: cache.without token })

/-- Looks an identity up. An entry whose token has expired is removed. -/
def get (cache : LruCache) (now : Instant) (token : AccessToken) :
    Option SecurityContext × LruCache :=
  match cache.entry? token with
  | none => (none, cache)
  | some entry =>
      if entry.isLive now then
        (some entry.context, { cache with entries := (token, entry) :: cache.without token })
      else (none, { cache with entries := cache.without token })

/-- Removes an identity and gives it, if its token is still accepted. Removal reaches also an entry
that could not be found. -/
def revoke (cache : LruCache) (now : Instant) (token : AccessToken) :
    Option SecurityContext × LruCache :=
  ((cache.entries.lookup token).bind (·.live? now), { cache with entries := cache.without token })

/-- The weight of a list of entries. -/
def totalWeight : List (AccessToken × CacheEntry) → Nat
  | [] => 0
  | (token, _) :: rest => token.weight + totalWeight rest

/-- The weight of all entries. -/
def weight (cache : LruCache) : Nat := totalWeight cache.entries

/-- The number of entries. -/
def size (cache : LruCache) : Nat := cache.entries.length

/-- The entries that fit into a budget, the most recently used first. -/
def fitting : Nat → List (AccessToken × CacheEntry) → List (AccessToken × CacheEntry)
  | _, [] => []
  | budget, (token, entry) :: rest =>
      if token.weight ≤ budget then (token, entry) :: fitting (budget - token.weight) rest
      else fitting budget rest

/-- The time that passes at least until a cache has settled. -/
def settlingTime : Duration := ⟨10000⟩

/-- Drops entries until the budget is kept. Lives that are shorter than this takes end. -/
def settle (cache : LruCache) : LruCache :=
  let kept := cache.lapse fun _ entry => decide (entry.life < settlingTime)
  { kept with entries := fitting kept.budget kept.entries }

end LruCache

end SessionTokens
