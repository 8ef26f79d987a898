import SessionTokens.Cache.Lru
import SessionTokens.Database.Error

/-! # The caches that a service can be given -/

namespace SessionTokens

open Time

/-- What befalls a cache at one call: it drops entries before the call, and the call may fail, after
it had its effect or without one. -/
structure CacheFault where
  dropped : List AccessToken := []
  failure : Option DomainError := none
  tookEffect : Bool := true
  deriving Repr

/-- The kinds of verification cache. -/
inductive VerificationCache where
  /-- Remembers nothing. -/
  | off
  /-- Remembers within a budget and never answers past the expiry of a token. -/
  | lru (cache : LruCache)
  /-- Remembers within a budget, and is met by a fault at each call while there are any left. -/
  | unreliable (faults : List CacheFault) (cache : LruCache)
  /-- Remembers everything and ignores expiry; its writes may be made to fail. -/
  | plain (writable : Bool) (entries : List (AccessToken × SecurityContext))
  /-- Fails at every call. -/
  | broken
  deriving Repr

namespace VerificationCache

/-- How a cache that does not answer fails. -/
def unavailable : DomainError := .cache "unavailable"

/-- Makes a call to a cache that is met by faults. -/
def underFault (faults : List CacheFault) (entries : LruCache)
    (call : LruCache → Option SecurityContext × LruCache) :
    Except DomainError (Option SecurityContext) × VerificationCache :=
  let fault := faults.headD {}
  let entries := entries.drop fault.dropped.contains
  let (answer, changed) := call entries
  match fault.failure with
  | none => (.ok answer, .unreliable faults.tail changed)
  | some failure =>
      (.error failure, .unreliable faults.tail (if fault.tookEffect then changed else entries))

/-- Stores an identity and gives the one it replaces. -/
def put (cache : VerificationCache) (now : Instant) (token : AccessToken)
    (context : SecurityContext) (expiresAt : Instant) :
    Except DomainError (Option SecurityContext) × VerificationCache :=
  match cache with
  | .off => (.ok none, .off)
  | .lru entries =>
      let (previous, entries) := entries.put now token context expiresAt
      (.ok previous, .lru entries)
  | .unreliable faults entries =>
      underFault faults entries (·.put now token context expiresAt)
  | .plain true entries =>
      (.ok (entries.lookup token),
        .plain true ((token, context) :: entries.filter fun (key, _) => key != token))
  | .plain false entries => (.error unavailable, .plain false entries)
  | .broken => (.error unavailable, .broken)

/-- Looks an identity up. -/
def get (cache : VerificationCache) (now : Instant) (token : AccessToken) :
    Except DomainError (Option SecurityContext) × VerificationCache :=
  match cache with
  | .off => (.ok none, .off)
  | .lru entries =>
      let (found, entries) := entries.get now token
      (.ok found, .lru entries)
  | .unreliable faults entries => underFault faults entries (·.get now token)
  | .plain writable entries => (.ok (entries.lookup token), .plain writable entries)
  | .broken => (.error unavailable, .broken)

/-- Removes an identity and gives it. -/
def revoke (cache : VerificationCache) (now : Instant) (token : AccessToken) :
    Except DomainError (Option SecurityContext) × VerificationCache :=
  match cache with
  | .off => (.ok none, .off)
  | .lru entries =>
      let (removed, entries) := entries.revoke now token
      (.ok removed, .lru entries)
  | .unreliable faults entries => underFault faults entries (·.revoke now token)
  | .plain writable entries =>
      (.ok (entries.lookup token),
        .plain writable (entries.filter fun (key, _) => key != token))
  | .broken => (.error unavailable, .broken)

/-- Applies what the cache has put off. -/
def settle : VerificationCache → VerificationCache
  | .lru entries => .lru entries.settle
  | .unreliable faults entries => .unreliable faults entries.settle
  | cache => cache

/-- Whether the cache remembers within a budget. -/
def isEnabled : VerificationCache → Bool
  | .lru _ | .unreliable _ _ => true
  | _ => false

/-- The cache of a configuration: none when it is disabled, else one whose entries live at most as
long as an access token, which has to be for some time. -/
def configured (enabled : Bool) (budget : Nat) (tokenLifetime : Duration) :
    Except InfrastructureError VerificationCache :=
  if !enabled then .ok .off
  else if 0 < tokenLifetime.nanos then .ok (.lru (.empty budget tokenLifetime))
  else
    .error (.configuration
      s!"Access token lifetime must be positive, got {tokenLifetime.wholeSeconds}s")

end VerificationCache

end SessionTokens
