import SessionTokens.Cache.Configured
import SessionTokens.Crypto.Sha2
import SessionTokens.Jwt.Signer
import SessionTokens.Service.Reaper
import SessionTokens.Service.TokenService
import SessionTokens.Time.ManualClock

/-! # A service with everything it needs

A deployment is a token service over a manual clock, an in-memory store, a cache and the token
signer. Single collaborators can be made to fail. `Deployment.perform` carries out one command and
gives its reply; the commands are those of the service, and direct access to store and cache.
-/

namespace SessionTokens

open Time

/-- The operations of a store that can be made to fail. -/
inductive StoreOperation where
  | insert
  | revoke
  | prolong
  | revokeExpired
  | deleteExpired
  deriving DecidableEq, Repr

namespace StoreOperation

/-- The name of a store operation. -/
def name : StoreOperation → String
  | .insert => "insert"
  | .revoke => "revoke"
  | .prolong => "prolong"
  | .revokeExpired => "revoke_expired"
  | .deleteExpired => "delete_expired"

/-- The store operation of a name. -/
def ofName? (name : String) : Option StoreOperation :=
  [insert, revoke, prolong, revokeExpired, deleteExpired].find? (·.name == name)

/-- How a store operation fails that was made to. -/
def refusal (operation : StoreOperation) : DomainError := .storage (operation.name ++ " refused")

end StoreOperation

/-- The refresh token that is drawn after `n` others. -/
def drawnToken (n : Nat) : RefreshToken :=
  .ofRandom (Crypto.Sha2.ofBigEndian
    ((Crypto.Sha2.digest Crypto.Sha2.sha256 (Crypto.Sha2.toBigEndian 8 n)).take 16))

/-- A token service with its collaborators. -/
structure Deployment where
  config : ServiceConfig
  refreshLifetime : Duration
  clock : ManualClock
  store : Store := .empty
  cache : VerificationCache := .off
  signerWorks : Bool := true
  refused : List StoreOperation := []
  /-- The refresh tokens in the order in which they are drawn. -/
  ids : Nat → RefreshToken := drawnToken
  /-- How often claims were given to the signer. -/
  signed : Nat := 0
  /-- How often a token was given to the signer. -/
  extracted : Nat := 0
  /-- How many refresh tokens were drawn. -/
  drawn : Nat := 0
  /-- How often each sweep was called. -/
  revokeSweeps : Nat := 0
  deleteSweeps : Nat := 0

namespace Deployment

/-- Carries out a store operation, unless it is made to fail. -/
def unlessRefused (d : Deployment) (operation : StoreOperation)
    (act : Deployment → Except DomainError α × Deployment) : Except DomainError α × Deployment :=
  if d.refused.contains operation then (.error operation.refusal, d) else act d

/-- Issues a refresh token for a reading of the clock. -/
def insertAt (d : Deployment) (now : Instant) (context : SecurityContext) :
    Except DomainError Record × Deployment :=
  d.unlessRefused .insert fun d =>
    let (result, store) := d.store.insert d.refreshLifetime now (d.ids d.drawn) context
    (result, { d with store, drawn := d.drawn + 1 })

/-- Issues a refresh token. -/
def insert (d : Deployment) (context : SecurityContext) : Except DomainError Record × Deployment :=
  d.insertAt d.clock.now context

/-- Revokes a refresh token in the store. The clock is read once the store is held. -/
def storeRevoke (d : Deployment) (token : RefreshToken) :
    Except DomainError Record × Deployment :=
  d.unlessRefused .revoke fun d =>
    let (result, store) := d.store.revoke d.clock.now token
    (result, { d with store })

/-- Prolongs a refresh token for a reading of the clock. -/
def prolongAt (d : Deployment) (now : Instant) (token : RefreshToken) :
    Except DomainError RefreshToken × Deployment :=
  d.unlessRefused .prolong fun d =>
    let (result, store) := d.store.prolong d.refreshLifetime now token
    (result, { d with store })

/-- Prolongs a refresh token. -/
def prolong (d : Deployment) (token : RefreshToken) :
    Except DomainError RefreshToken × Deployment :=
  d.prolongAt d.clock.now token

/-- Revokes what has expired for a reading of the clock. -/
def revokeExpiredAt (d : Deployment) (now : Instant) : Except DomainError Nat × Deployment :=
  let d := { d with revokeSweeps := d.revokeSweeps + 1 }
  d.unlessRefused .revokeExpired fun d =>
    let (count, store) := d.store.revokeExpired now
    (.ok count, { d with store })

/-- Revokes what has expired. -/
def revokeExpired (d : Deployment) : Except DomainError Nat × Deployment :=
  d.revokeExpiredAt d.clock.now

/-- Deletes what has been expired for a span, for a reading of the clock. -/
def deleteExpiredForAt (d : Deployment) (now : Instant) (span : Duration) :
    Except DomainError Nat × Deployment :=
  let d := { d with deleteSweeps := d.deleteSweeps + 1 }
  d.unlessRefused .deleteExpired fun d =>
    let (count, store) := d.store.deleteExpiredFor span now
    (.ok count, { d with store })

/-- Deletes what has been expired for a span. -/
def deleteExpiredFor (d : Deployment) (span : Duration) : Except DomainError Nat × Deployment :=
  d.deleteExpiredForAt d.clock.now span

/-- Makes one cycle of the reaper. -/
def reap (d : Deployment) (grace : Duration) : ReapReport × Deployment :=
  let (revoked, d) := d.revokeExpired
  let (deleted, d) := d.deleteExpiredFor grace
  (.ofSweeps revoked deleted, d)

/-- Has claims signed. -/
def sign (d : Deployment) (claims : Claims) (secret : TokenSecret) :
    Except TokenError AccessToken × Deployment :=
  (if d.signerWorks then .ok (Jwt.sign claims secret)
    else .error (.malformedSubject claims.subject),
    { d with signed := d.signed + 1 })

/-- Has the claims of a token extracted. -/
def extract (d : Deployment) (token : AccessToken) (secret : TokenSecret) :
    Except TokenError Claims × Deployment :=
  (if d.signerWorks then Jwt.extract token secret else .error .expired,
    { d with extracted := d.extracted + 1 })

/-- Looks a token up in the cache. -/
def consult (d : Deployment) (token : AccessToken) :
    Except DomainError (Option SecurityContext) × Deployment :=
  let (result, cache) := d.cache.get d.clock.now token
  (result, { d with cache })

/-- Stores an identity in the cache. -/
def remember (d : Deployment) (token : AccessToken) (context : SecurityContext)
    (expiresAt : Instant) : Except DomainError (Option SecurityContext) × Deployment :=
  let (result, cache) := d.cache.put d.clock.now token context expiresAt
  (result, { d with cache })

/-- Removes a token from the cache. -/
def forget (d : Deployment) (token : AccessToken) :
    Except DomainError (Option SecurityContext) × Deployment :=
  let (result, cache) := d.cache.revoke d.clock.now token
  (result, { d with cache })

/-- The collaborators of the service. -/
def collaborators : Collaborators Deployment where
  now d := d.clock.now
  sign claims secret d := d.sign claims secret
  extract token secret d := d.extract token secret
  consult token d := d.consult token
  remember token context expiresAt d := d.remember token context expiresAt
  insert context d := d.insert context
  revoke token d := d.storeRevoke token

/-- Issues a pair of tokens. -/
def generate (d : Deployment) (context : SecurityContext) :
    Except DomainError TokenPair × Deployment :=
  (TokenService.generate d.config context).run collaborators d

/-- Verifies an access token. -/
def verify (d : Deployment) (token : AccessToken) :
    Except DomainError SecurityContext × Deployment :=
  (TokenService.verify d.config token).run collaborators d

/-- Rotates a refresh token into a new pair. -/
def refresh (d : Deployment) (token : RefreshToken) : Except DomainError TokenPair × Deployment :=
  (TokenService.refresh d.config token).run collaborators d

/-- Revokes a refresh token through the service. -/
def revoke (d : Deployment) (token : RefreshToken) :
    Except DomainError RefreshToken × Deployment :=
  (TokenService.revoke token).run collaborators d

/-- Refreshes the same token a number of times. -/
def race (d : Deployment) (token : RefreshToken) :
    Nat → List (Except DomainError TokenPair) × Deployment
  | 0 => ([], d)
  | times + 1 =>
      let (result, d) := d.refresh token
      let (results, d) := d.race token times
      (result :: results, d)

/-- What a deployment can be told to do. -/
inductive Command where
  | move (m : ManualClock.Move)
  | generate (context : SecurityContext)
  | verify (token : AccessToken)
  | refresh (token : RefreshToken)
  | revoke (token : RefreshToken)
  | race (token : RefreshToken) (times : Nat)
  | insert (context : SecurityContext)
  | storeRevoke (token : RefreshToken)
  | find (token : RefreshToken)
  | prolong (token : RefreshToken)
  | revokeExpired
  | deleteExpired (span : Duration)
  | reap (grace : Duration)
  | remember (token : AccessToken) (context : SecurityContext) (expiresAt : Instant)
  | consult (token : AccessToken)
  | forget (token : AccessToken)
  | rotate (config : ServiceConfig)
  deriving Repr

/-- What a deployment replies. -/
inductive Reply where
  | moved (possible : Bool)
  | pair (result : Except DomainError TokenPair)
  | pairs (results : List (Except DomainError TokenPair))
  | identity (result : Except DomainError SecurityContext)
  | token (result : Except DomainError RefreshToken)
  | record (result : Except DomainError Record)
  | found (record : Option Record)
  | count (result : Except DomainError Nat)
  | reaped (report : ReapReport)
  | cached (result : Except DomainError (Option SecurityContext))
  | rotated (issuer : String)

/-- Carries out a command. -/
def reply (d : Deployment) : Command → Reply × Deployment
  | .move m =>
      match d.clock.move? m with
      | some clock => (.moved true, { d with clock })
      | none => (.moved false, d)
  | .generate context => let (r, d) := d.generate context; (.pair r, d)
  | .verify token => let (r, d) := d.verify token; (.identity r, d)
  | .refresh token => let (r, d) := d.refresh token; (.pair r, d)
  | .revoke token => let (r, d) := d.revoke token; (.token r, d)
  | .race token times => let (r, d) := d.race token times; (.pairs r, d)
  | .insert context => let (r, d) := d.insert context; (.record r, d)
  | .storeRevoke token => let (r, d) := d.storeRevoke token; (.record r, d)
  | .find token => (.found (d.store.find? token), d)
  | .prolong token => let (r, d) := d.prolong token; (.token r, d)
  | .revokeExpired => let (r, d) := d.revokeExpired; (.count r, d)
  | .deleteExpired span => let (r, d) := d.deleteExpiredFor span; (.count r, d)
  | .reap grace => let (r, d) := d.reap grace; (.reaped r, d)
  | .remember token context expiresAt =>
      let (r, d) := d.remember token context expiresAt; (.cached r, d)
  | .consult token => let (r, d) := d.consult token; (.cached r, d)
  | .forget token => let (r, d) := d.forget token; (.cached r, d)
  | .rotate config => (.rotated config.issuer, { d with config })

/-- Carries out a command and then applies what the cache has put off. -/
def perform (d : Deployment) (command : Command) : Reply × Deployment :=
  let (r, d) := d.reply command
  (r, { d with cache := d.cache.settle })

/-- Carries out commands in order. -/
def performAll (d : Deployment) : List Command → List Reply × Deployment
  | [] => ([], d)
  | command :: rest =>
      let (r, d) := d.perform command
      let (rs, d) := d.performAll rest
      (r :: rs, d)

end Deployment

end SessionTokens
