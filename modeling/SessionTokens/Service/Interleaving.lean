import SessionTokens.Service.Deployment

/-! # Calls side by side

Any number of service calls share a deployment. At each turn one of them makes its next step,
another call arrives, or something happens beside them: the clock moves, a token is prolonged, a
sweep is made. A step is one call to a collaborator, which nobody comes between. The steps of calls
are kept with the deployments before and after them.

What takes a reading of the clock before it gets hold of the store works with that reading however
old it is by then. A turn brings the reading along; any instant will do.
-/

namespace SessionTokens

open Time

/-- What the service can be asked for. -/
inductive Request where
  | login (context : SecurityContext)
  | verify (token : AccessToken)
  | refresh (token : RefreshToken)
  | revoke (token : RefreshToken)
  deriving DecidableEq, Repr

namespace Request

/-- The conversation in which a request is answered. -/
def script (config : ServiceConfig) : Request → Script Deployment.Reply
  | .login context => (TokenService.generate config context).map .pair
  | .verify token => (TokenService.verify config token).map .identity
  | .refresh token => (TokenService.refresh config token).map .pair
  | .revoke token => (TokenService.revoke token).map .token

/-- Whether a request presents a refresh token. -/
def presents (token : RefreshToken) : Request → Bool
  | .refresh presented | .revoke presented => presented = token
  | _ => false

end Request

/-- The failure that a reply to a service call tells of. -/
def Deployment.Reply.failure? : Deployment.Reply → Option DomainError
  | .pair (.error failure) | .identity (.error failure) | .token (.error failure) => some failure
  | _ => none

/-- A call with what is left of its conversation. -/
structure ServiceCall where
  request : Request
  script : Script Deployment.Reply

/-- The reply to a call that is over. -/
def ServiceCall.reply? (call : ServiceCall) : Option Deployment.Reply :=
  match call.script with
  | .done reply => some reply
  | _ => none

/-- A step that a call has made, with the deployments before and after it. -/
structure CallStep where
  call : Nat
  request : Request
  before : Deployment
  after : Deployment

namespace CallStep

/-- Whether a step revokes a refresh token that was active until then. -/
def revokes (token : RefreshToken) (step : CallStep) : Bool :=
  (step.before.store.find? token).any (·.isActive) &&
    (step.after.store.find? token).any (!·.isActive)

/-- How many access tokens were given to the signer in a step. -/
def signatures (step : CallStep) : Nat := step.after.signed - step.before.signed

/-- How many refresh tokens were drawn in a step. -/
def draws (step : CallStep) : Nat := step.after.drawn - step.before.drawn

/-- The sum of a count over steps. -/
def total (count : CallStep → Nat) : List CallStep → Nat
  | [] => 0
  | step :: rest => count step + total count rest

end CallStep

namespace Deployment

/-- The collaborators of a call that has taken a reading of the clock for the refresh token that it
issues. -/
def collaboratorsAt (reading : Instant) : Collaborators Deployment :=
  { collaborators with insert := fun context d => d.insertAt reading context }

end Deployment

/-- What can happen at a turn. -/
inductive Turn where
  /-- A call arrives. -/
  | arrive (request : Request)
  /-- A call makes its next step. -/
  | proceed (call : Nat) (cacheFirst : Bool) (reading : Instant)
  | moveClock (m : ManualClock.Move)
  | prolong (token : RefreshToken) (reading : Instant)
  | revokeExpired (reading : Instant)
  | deleteExpired (span : Duration) (reading : Instant)
  deriving Repr

/-- The calls that share a deployment, in the order of their arrival, and the steps that they have
made, the latest first. -/
structure Interleaving where
  deployment : Deployment
  calls : List ServiceCall := []
  steps : List CallStep := []

namespace Interleaving

/-- A call has made a step that left it with a conversation and the calls with a deployment. -/
def advance (s : Interleaving) (index : Nat) (call : ServiceCall)
    (script : Script Deployment.Reply) (deployment : Deployment) : Interleaving where
  deployment
  calls := s.calls.set index { call with script }
  steps := ⟨index, call.request, s.deployment, deployment⟩ :: s.steps

/-- A call makes its next step. One that is over changes nothing. -/
def proceed (s : Interleaving) (index : Nat) (cacheFirst : Bool) (reading : Instant) :
    Interleaving :=
  match s.calls[index]? with
  | none => s
  | some call =>
      let (script, deployment) :=
        call.script.step (Deployment.collaboratorsAt reading) cacheFirst s.deployment
      s.advance index call script deployment

/-- Takes a turn. -/
def take (s : Interleaving) : Turn → Interleaving
  | .arrive request =>
      { s with calls := s.calls ++ [⟨request, request.script s.deployment.config⟩] }
  | .proceed index cacheFirst reading => s.proceed index cacheFirst reading
  | .moveClock m =>
      { s with
        deployment := { s.deployment with clock := s.deployment.clock.afterMove m } }
  | .prolong token reading => { s with deployment := (s.deployment.prolongAt reading token).2 }
  | .revokeExpired reading => { s with deployment := (s.deployment.revokeExpiredAt reading).2 }
  | .deleteExpired span reading =>
      { s with deployment := (s.deployment.deleteExpiredForAt reading span).2 }

/-- Takes turns in order. -/
def run (s : Interleaving) (turns : List Turn) : Interleaving := turns.foldl take s

/-- The reply to a call, once there is one. -/
def reply? (s : Interleaving) (index : Nat) : Option Deployment.Reply :=
  s.calls[index]?.bind ServiceCall.reply?

/-- The steps of calls that present a refresh token. -/
def stepsFor (s : Interleaving) (token : RefreshToken) : List CallStep :=
  s.steps.filter fun step => step.request.presents token

end Interleaving

end SessionTokens
