import SessionTokens.Token.Record

/-! # Conversations with collaborators

What the token service does is a script: a tree of the calls it makes, branching on their answers.
A script says nothing about who answers. `Script.run` lets collaborators answer one call after the
other; the same script can be interleaved with others, one call at a time.
-/

namespace SessionTokens

open Time

/-- A conversation that ends with a result of type `α`. -/
inductive Script (α : Type) where
  /-- The conversation is over. -/
  | done (result : α)
  /-- Reads the clock. -/
  | readClock (next : Instant → Script α)
  /-- Has claims signed. -/
  | sign (claims : Claims) (secret : TokenSecret)
      (next : Except TokenError AccessToken → Script α)
  /-- Has the claims of a token extracted. -/
  | extract (token : AccessToken) (secret : TokenSecret)
      (next : Except TokenError Claims → Script α)
  /-- Looks a token up in the cache. -/
  | consult (token : AccessToken)
      (next : Except DomainError (Option SecurityContext) → Script α)
  /-- Stores an identity in the cache. -/
  | remember (token : AccessToken) (context : SecurityContext) (expiresAt : Instant)
      (next : Except DomainError (Option SecurityContext) → Script α)
  /-- Issues a refresh token. -/
  | insert (context : SecurityContext) (next : Except DomainError Record → Script α)
  /-- Issues a refresh token and stores an identity in the cache, in whichever order. -/
  | insertAndRemember (context : SecurityContext) (token : AccessToken) (expiresAt : Instant)
      (next : Except DomainError Record → Except DomainError (Option SecurityContext) → Script α)
  /-- Revokes a refresh token. -/
  | revoke (token : RefreshToken) (next : Except DomainError Record → Script α)

/-- Who answers the calls of a script, in a world of type `σ`. -/
structure Collaborators (σ : Type) where
  now : σ → Instant
  sign : Claims → TokenSecret → σ → Except TokenError AccessToken × σ
  extract : AccessToken → TokenSecret → σ → Except TokenError Claims × σ
  consult : AccessToken → σ → Except DomainError (Option SecurityContext) × σ
  remember : AccessToken → SecurityContext → Instant → σ →
    Except DomainError (Option SecurityContext) × σ
  insert : SecurityContext → σ → Except DomainError Record × σ
  revoke : RefreshToken → σ → Except DomainError Record × σ

namespace Script

/-- A script whose result is changed by a function. -/
def map (f : α → β) : Script α → Script β
  | .done result => .done (f result)
  | .readClock next => .readClock fun now => (next now).map f
  | .sign claims secret next => .sign claims secret fun answer => (next answer).map f
  | .extract token secret next => .extract token secret fun answer => (next answer).map f
  | .consult token next => .consult token fun answer => (next answer).map f
  | .remember token context expiresAt next =>
      .remember token context expiresAt fun answer => (next answer).map f
  | .insert context next => .insert context fun answer => (next answer).map f
  | .insertAndRemember context token expiresAt next =>
      .insertAndRemember context token expiresAt fun inserted remembered =>
        (next inserted remembered).map f
  | .revoke token next => .revoke token fun answer => (next answer).map f

/-- A script after its next call was answered, with the world that the answer left. Of two calls
that may be answered in whichever order, the one to the cache comes first if it is wanted so. A
script that is over stays as it is. -/
def step (c : Collaborators σ) (cacheFirst : Bool) (script : Script α) (world : σ) :
    Script α × σ :=
  match script with
  | .done result => (.done result, world)
  | .readClock next => (next (c.now world), world)
  | .sign claims secret next =>
      let (answer, world) := c.sign claims secret world
      (next answer, world)
  | .extract token secret next =>
      let (answer, world) := c.extract token secret world
      (next answer, world)
  | .consult token next =>
      let (answer, world) := c.consult token world
      (next answer, world)
  | .remember token context expiresAt next =>
      let (answer, world) := c.remember token context expiresAt world
      (next answer, world)
  | .insert context next =>
      let (answer, world) := c.insert context world
      (next answer, world)
  | .insertAndRemember context token expiresAt next =>
      if cacheFirst then
        let (remembered, world) := c.remember token context expiresAt world
        (.insert context fun inserted => next inserted remembered, world)
      else
        let (inserted, world) := c.insert context world
        (.remember token context expiresAt (next inserted), world)
  | .revoke token next =>
      let (answer, world) := c.revoke token world
      (next answer, world)

/-- Answers all calls of a script, one after the other. -/
def run (c : Collaborators σ) : Script α → σ → α × σ
  | .done result, world => (result, world)
  | .readClock next, world => run c (next (c.now world)) world
  | .sign claims secret next, world =>
      run c (next (c.sign claims secret world).1) (c.sign claims secret world).2
  | .extract token secret next, world =>
      run c (next (c.extract token secret world).1) (c.extract token secret world).2
  | .consult token next, world => run c (next (c.consult token world).1) (c.consult token world).2
  | .remember token context expiresAt next, world =>
      run c (next (c.remember token context expiresAt world).1)
        (c.remember token context expiresAt world).2
  | .insert context next, world =>
      run c (next (c.insert context world).1) (c.insert context world).2
  | .insertAndRemember context token expiresAt next, world =>
      let (inserted, world) := c.insert context world
      let (remembered, world) := c.remember token context expiresAt world
      run c (next inserted remembered) world
  | .revoke token next, world => run c (next (c.revoke token world).1) (c.revoke token world).2

/-- Answering one call first makes no difference to how a conversation goes on. -/
theorem run_step (c : Collaborators σ) (script : Script α) (world : σ) :
    run c (script.step c false world).1 (script.step c false world).2 = script.run c world := by
  cases script <;> rfl

end Script

end SessionTokens
