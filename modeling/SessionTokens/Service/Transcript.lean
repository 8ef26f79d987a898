import SessionTokens.Service.Script

/-! # Transcripts of conversations

A transcript lists the calls of a conversation in the order in which they were made, each with its
answer. A script has a transcript for everything that collaborators can answer, so that what holds of
all its transcripts holds whoever answers it, and whatever happens to them between two calls.
-/

namespace SessionTokens

open Time

/-- Whom a call is made to. -/
inductive Party where
  | clock
  | signer
  | cache
  | store
  deriving DecidableEq, Repr

/-- A call with its answer. -/
inductive Exchange where
  | readClock (now : Instant)
  | sign (claims : Claims) (secret : TokenSecret) (answer : Except TokenError AccessToken)
  | extract (token : AccessToken) (secret : TokenSecret) (answer : Except TokenError Claims)
  | consult (token : AccessToken) (answer : Except DomainError (Option SecurityContext))
  | remember (token : AccessToken) (context : SecurityContext) (expiresAt : Instant)
      (answer : Except DomainError (Option SecurityContext))
  | insert (context : SecurityContext) (answer : Except DomainError Record)
  | revoke (token : RefreshToken) (answer : Except DomainError Record)

/-- Whom the call of an exchange is made to. -/
def Exchange.party : Exchange → Party
  | .readClock _ => .clock
  | .sign .. | .extract .. => .signer
  | .consult .. | .remember .. => .cache
  | .insert .. | .revoke .. => .store

namespace Script

/-- A conversation can go through these exchanges and end with this result. Of two calls that may be
answered in whichever order, either can be the first. -/
inductive HasTranscript : Script α → List Exchange → α → Prop
  | done (result : α) : HasTranscript (.done result) [] result
  | readClock {next : Instant → Script α} {rest : List Exchange} {result : α} (now : Instant) :
      HasTranscript (next now) rest result →
        HasTranscript (.readClock next) (.readClock now :: rest) result
  | sign {claims : Claims} {secret : TokenSecret}
      {next : Except TokenError AccessToken → Script α} {rest : List Exchange} {result : α}
      (answer : Except TokenError AccessToken) :
      HasTranscript (next answer) rest result →
        HasTranscript (.sign claims secret next) (.sign claims secret answer :: rest) result
  | extract {token : AccessToken} {secret : TokenSecret}
      {next : Except TokenError Claims → Script α} {rest : List Exchange} {result : α}
      (answer : Except TokenError Claims) :
      HasTranscript (next answer) rest result →
        HasTranscript (.extract token secret next) (.extract token secret answer :: rest) result
  | consult {token : AccessToken}
      {next : Except DomainError (Option SecurityContext) → Script α} {rest : List Exchange}
      {result : α} (answer : Except DomainError (Option SecurityContext)) :
      HasTranscript (next answer) rest result →
        HasTranscript (.consult token next) (.consult token answer :: rest) result
  | remember {token : AccessToken} {context : SecurityContext} {expiresAt : Instant}
      {next : Except DomainError (Option SecurityContext) → Script α} {rest : List Exchange}
      {result : α} (answer : Except DomainError (Option SecurityContext)) :
      HasTranscript (next answer) rest result →
        HasTranscript (.remember token context expiresAt next)
          (.remember token context expiresAt answer :: rest) result
  | insert {context : SecurityContext} {next : Except DomainError Record → Script α}
      {rest : List Exchange} {result : α} (answer : Except DomainError Record) :
      HasTranscript (next answer) rest result →
        HasTranscript (.insert context next) (.insert context answer :: rest) result
  | insertFirst {context : SecurityContext} {token : AccessToken} {expiresAt : Instant}
      {next : Except DomainError Record → Except DomainError (Option SecurityContext) → Script α}
      {rest : List Exchange} {result : α} (inserted : Except DomainError Record)
      (remembered : Except DomainError (Option SecurityContext)) :
      HasTranscript (next inserted remembered) rest result →
        HasTranscript (.insertAndRemember context token expiresAt next)
          (.insert context inserted :: .remember token context expiresAt remembered :: rest) result
  | rememberFirst {context : SecurityContext} {token : AccessToken} {expiresAt : Instant}
      {next : Except DomainError Record → Except DomainError (Option SecurityContext) → Script α}
      {rest : List Exchange} {result : α} (inserted : Except DomainError Record)
      (remembered : Except DomainError (Option SecurityContext)) :
      HasTranscript (next inserted remembered) rest result →
        HasTranscript (.insertAndRemember context token expiresAt next)
          (.remember token context expiresAt remembered :: .insert context inserted :: rest) result
  | revoke {token : RefreshToken} {next : Except DomainError Record → Script α}
      {rest : List Exchange} {result : α} (answer : Except DomainError Record) :
      HasTranscript (next answer) rest result →
        HasTranscript (.revoke token next) (.revoke token answer :: rest) result

/-- The exchanges of a conversation whose calls are answered one after the other. -/
def exchanges (c : Collaborators σ) : Script α → σ → List Exchange
  | .done _, _ => []
  | .readClock next, world => .readClock (c.now world) :: exchanges c (next (c.now world)) world
  | .sign claims secret next, world =>
      let (answer, world) := c.sign claims secret world
      .sign claims secret answer :: exchanges c (next answer) world
  | .extract token secret next, world =>
      let (answer, world) := c.extract token secret world
      .extract token secret answer :: exchanges c (next answer) world
  | .consult token next, world =>
      let (answer, world) := c.consult token world
      .consult token answer :: exchanges c (next answer) world
  | .remember token context expiresAt next, world =>
      let (answer, world) := c.remember token context expiresAt world
      .remember token context expiresAt answer :: exchanges c (next answer) world
  | .insert context next, world =>
      let (answer, world) := c.insert context world
      .insert context answer :: exchanges c (next answer) world
  | .insertAndRemember context token expiresAt next, world =>
      let (inserted, world) := c.insert context world
      let (remembered, world) := c.remember token context expiresAt world
      .insert context inserted :: .remember token context expiresAt remembered ::
        exchanges c (next inserted remembered) world
  | .revoke token next, world =>
      let (answer, world) := c.revoke token world
      .revoke token answer :: exchanges c (next answer) world

/-- Whoever answers a conversation, its exchanges are a transcript of it. -/
theorem run_hasTranscript (c : Collaborators σ) (script : Script α) (world : σ) :
    script.HasTranscript (script.exchanges c world) (script.run c world).1 := by
  induction script generalizing world with
  | done result => exact .done result
  | readClock next ih => exact .readClock _ (ih _ _)
  | sign claims secret next ih => exact .sign _ (ih _ _)
  | extract token secret next ih => exact .extract _ (ih _ _)
  | consult token next ih => exact .consult _ (ih _ _)
  | remember token context expiresAt next ih => exact .remember _ (ih _ _)
  | insert context next ih => exact .insert _ (ih _ _)
  | insertAndRemember context token expiresAt next ih => exact .insertFirst _ _ (ih _ _ _)
  | revoke token next ih => exact .revoke _ (ih _ _)

end Script

end SessionTokens
