import SessionTokens.Proofs.Service.Conduct
import SessionTokens.Proofs.Service.Evolution

/-! # How far a call has come with issuing a record

A login owes a record from the start, and a refresh owes one from the step in which it takes the
record that it is given up for, to the same context. A call that owes a record may issue it, once.
What else it does leaves the store alone; only a call that revokes keeps what it has not taken.
-/

namespace SessionTokens

open Time Deployment

/-- Whether a call is to issue a record. -/
inductive Stage where
  /-- The call owes no record so far, and may never do so. -/
  | waiting
  /-- The call owes a record for a context. -/
  | owing (context : SecurityContext)
  /-- The call has issued its record. -/
  | issued
  deriving DecidableEq, Repr

namespace Stage

/-- The stage in which a call arrives. -/
def start : Request → Stage
  | .login context => .owing context
  | .verify _ | .refresh _ | .revoke _ => .waiting

theorem start_eq_owing {request : Request} {context : SecurityContext}
    (h : start request = .owing context) : request = .login context := by
  cases request <;> cases h
  rfl

theorem start_ne_issued (request : Request) : start request ≠ .issued := by
  cases request <;> nofun

/-- The stage of a call that was to issue a record for a context. -/
def ofInsert (context : SecurityContext) : Except DomainError Record → Stage
  | .ok _ => .issued
  | .error _ => .owing context

/-- The stage of a refresh that was to take a record. -/
def ofTaking : Except DomainError Record → Stage
  | .ok record => .owing record.context
  | .error _ => .waiting

/-- How a step of a call moves it from one stage to another. -/
inductive Move (request : Request) : Stage → Deployment → Deployment → Stage → Prop
  | stays {stage : Stage} {before after : Deployment} :
      after.store = before.store → Move request stage before after stage
  | revokes {stage : Stage} {before after : Deployment} {token : RefreshToken} :
      request = .revoke token → before.store.Keeps after.store →
        Move request stage before after stage
  | takes {before after : Deployment} {token : RefreshToken} {record : Record} :
      request = .refresh token → before.store.find? token = some record →
        record.isActive = true →
          after.store.find? token = some (record.revoke before.clock.now) →
            before.store.Keeps after.store →
              Move request .waiting before after (.owing record.context)
  | issues {before after : Deployment} {record : Record}
      (hfresh : before.store.find? record.token = none) :
      after.store = before.store.push record hfresh → record.isActive = true →
        Move request (.owing record.context) before after .issued

/-- A call is answered with a pair exactly if it has issued its record. -/
def Ends (stage : Stage) (reply : Reply) : Prop :=
  stage = .issued ↔ ∃ pair, reply = .pair (.ok pair)

end Stage

namespace Deployment

variable {request : Request}

theorem insertAt_moves (d : Deployment) (reading : Instant) (context : SecurityContext) :
    Stage.Move request (.owing context) d (d.insertAt reading context).2
      (.ofInsert context (d.insertAt reading context).1) := by
  unfold insertAt unlessRefused
  split
  next => exact .stays rfl
  next =>
    rcases d.store.insert_cases d.refreshLifetime reading (d.ids d.drawn) context with
      ⟨record, hfresh, hissued, heq⟩ | ⟨failure, heq⟩
    · obtain ⟨-, rfl, hactive⟩ := Store.issue_eq_ok hissued
      simp only [heq]
      exact .issues hfresh rfl hactive
    · simp only [heq]
      exact .stays rfl

theorem storeRevoke_keeps (d : Deployment) (token : RefreshToken) :
    d.store.Keeps (d.storeRevoke token).2.store :=
  unlessRefused_keeps d.store.keeps_refl
    (d.store.apply_keeps (.revoke d.clock.now token) rfl)

theorem storeRevoke_moves (d : Deployment) (token : RefreshToken) :
    Stage.Move (.refresh token) .waiting d (d.storeRevoke token).2
      (.ofTaking (d.storeRevoke token).1) := by
  cases hanswer : (d.storeRevoke token).1 with
  | error failure => exact .stays (storeRevoke_eq_error hanswer)
  | ok revoked =>
      obtain ⟨record, hfound, hactive, rfl, hleft⟩ := storeRevoke_eq_ok hanswer
      have hmoves : Stage.Move (.refresh token) .waiting d (d.storeRevoke token).2
          (.owing record.context) := .takes rfl hfound hactive hleft (d.storeRevoke_keeps token)
      exact hmoves

end Deployment

/-- A conversation of a call that is in a stage. -/
abbrev Proceeds (request : Request) (ends : Stage → α → Prop) : Stage → Script α → Prop :=
  Script.Conducts (fun _ => True) (Stage.Move request) ends

namespace Proceeds

variable {request : Request} {ends : Stage → α → Prop} {stage : Stage}

/-- A call to anybody but the store leaves a conversation in its stage. -/
theorem still {script : Script α} (hopen : ∀ result, script ≠ .done result)
    (hstore : ∀ d cacheFirst reading,
      (script.step (collaboratorsAt reading) cacheFirst d).2.store = d.store)
    (h : ∀ d cacheFirst reading,
      Proceeds request ends stage (script.step (collaboratorsAt reading) cacheFirst d).1) :
    Proceeds request ends stage script :=
  .goesOn (fun _ _ _ => stage) hopen (fun d cacheFirst reading _ => .stays (hstore d cacheFirst reading))
    fun d cacheFirst reading _ => h d cacheFirst reading

theorem readClock {next : Instant → Script α} (h : ∀ now, Proceeds request ends stage (next now)) :
    Proceeds request ends stage (.readClock next) :=
  still nofun (fun _ _ _ => rfl) fun _ _ _ => h _

theorem sign {claims : Claims} {secret : TokenSecret}
    {next : Except TokenError AccessToken → Script α}
    (h : ∀ answer, Proceeds request ends stage (next answer)) :
    Proceeds request ends stage (.sign claims secret next) :=
  still nofun (fun _ _ _ => rfl) fun _ _ _ => h _

theorem extract {token : AccessToken} {secret : TokenSecret}
    {next : Except TokenError Claims → Script α}
    (h : ∀ answer, Proceeds request ends stage (next answer)) :
    Proceeds request ends stage (.extract token secret next) :=
  still nofun (fun _ _ _ => rfl) fun _ _ _ => h _

theorem consult {token : AccessToken}
    {next : Except DomainError (Option SecurityContext) → Script α}
    (h : ∀ answer, Proceeds request ends stage (next answer)) :
    Proceeds request ends stage (.consult token next) :=
  still nofun (fun _ _ _ => rfl) fun _ _ _ => h _

theorem remember {token : AccessToken} {context : SecurityContext} {expiresAt : Instant}
    {next : Except DomainError (Option SecurityContext) → Script α}
    (h : ∀ answer, Proceeds request ends stage (next answer)) :
    Proceeds request ends stage (.remember token context expiresAt next) :=
  still nofun (fun _ _ _ => rfl) fun _ _ _ => h _

theorem insert {context : SecurityContext} {next : Except DomainError Record → Script α}
    (h : ∀ answer, Proceeds request ends (.ofInsert context answer) (next answer)) :
    Proceeds request ends (.owing context) (.insert context next) :=
  .goesOn (fun d _ reading => .ofInsert context (d.insertAt reading context).1) nofun
    (fun d _ reading _ => d.insertAt_moves reading context) fun _ _ _ _ => h _

/-- Whichever of the two calls comes first, the other one is left to be made. -/
theorem insertAndRemember {context : SecurityContext} {token : AccessToken} {expiresAt : Instant}
    {next : Except DomainError Record → Except DomainError (Option SecurityContext) → Script α}
    (h : ∀ inserted remembered,
      Proceeds request ends (.ofInsert context inserted) (next inserted remembered)) :
    Proceeds request ends (.owing context)
      (.insertAndRemember context token expiresAt next) := by
  refine .goesOn
    (fun d cacheFirst reading =>
      if cacheFirst then .owing context else .ofInsert context (d.insertAt reading context).1)
    nofun ?_ ?_
  · intro d cacheFirst reading _
    cases cacheFirst with
    | true => exact .stays rfl
    | false => exact d.insertAt_moves reading context
  · intro d cacheFirst reading _
    cases cacheFirst with
    | true => exact insert fun inserted => h inserted _
    | false => exact remember fun remembered => h _ remembered

/-! ## The service -/

/-- What tells that a pair was generated exactly if the record was issued. -/
def GivesPair (stage : Stage) (result : Except DomainError TokenPair) : Prop :=
  stage = .issued ↔ ∃ pair, result = .ok pair

theorem givesPair_error {failure : DomainError} (h : stage ≠ .issued) :
    GivesPair stage (.error failure) :=
  ⟨fun heq => absurd heq h, fun ⟨_, heq⟩ => nomatch heq⟩

theorem generate (config : ServiceConfig) (context : SecurityContext) :
    Proceeds request GivesPair (.owing context) (TokenService.generate config context) := by
  refine readClock fun issuedAt => ?_
  split
  next => exact .finished (givesPair_error nofun)
  next claims _ =>
    refine sign fun signed => ?_
    split
    next => exact .finished (givesPair_error nofun)
    next accessToken =>
      refine insertAndRemember fun inserted _ => ?_
      cases inserted with
      | error failure => exact .finished (givesPair_error nofun)
      | ok record => exact .finished ⟨fun _ => ⟨_, rfl⟩, fun _ => rfl⟩

theorem refresh (config : ServiceConfig) (token : RefreshToken) :
    Proceeds (.refresh token) GivesPair .waiting (TokenService.refresh config token) := by
  refine .goesOn (fun d _ _ => .ofTaking (d.storeRevoke token).1) (fun _ heq => nomatch heq)
    (fun d _ _ _ => d.storeRevoke_moves token) fun d cacheFirst reading _ => ?_
  simp only [TokenService.refresh, Script.step, collaboratorsAt, collaborators]
  cases hanswer : (d.storeRevoke token).1 with
  | error failure => exact .finished (givesPair_error nofun)
  | ok revoked =>
      obtain ⟨record, -, -, rfl, -⟩ := storeRevoke_eq_ok hanswer
      simp only [Record.revoke]
      unfold TokenService.redeem
      split
      next => exact .finished (givesPair_error nofun)
      next => exact generate config record.context

theorem verify (config : ServiceConfig) (token : AccessToken) :
    Proceeds request (fun stage _ => stage = .waiting) .waiting
      (TokenService.verify config token) := by
  refine consult fun answer => ?_
  split
  next => exact .finished rfl
  next =>
    refine extract fun extracted => ?_
    split
    next => exact .finished rfl
    next =>
      refine readClock fun now => ?_
      split
      next => exact .finished rfl
      next => exact remember fun _ => .finished rfl

theorem revoke (token : RefreshToken) :
    Proceeds (.revoke token) (fun stage _ => stage = .waiting) .waiting
      (TokenService.revoke token) := by
  refine .goesOn (fun _ _ _ => .waiting) (fun _ heq => nomatch heq)
    (fun d _ _ _ => .revokes rfl (d.storeRevoke_keeps token)) fun d cacheFirst reading _ => ?_
  simp only [TokenService.revoke, Script.step, collaboratorsAt, collaborators]
  cases (d.storeRevoke token).1 with
  | error failure => exact .finished rfl
  | ok record => exact .finished rfl

end Proceeds

theorem Stage.ends_pair {stage : Stage} {result : Except DomainError TokenPair}
    (h : Proceeds.GivesPair stage result) : stage.Ends (.pair result) := by
  refine h.trans ⟨?_, ?_⟩
  · rintro ⟨pair, rfl⟩
    exact ⟨pair, rfl⟩
  · rintro ⟨pair, heq⟩
    cases heq
    exact ⟨pair, rfl⟩

theorem Request.script_proceeds (config : ServiceConfig) (request : Request) :
    Proceeds request Stage.Ends (.start request) (request.script config) := by
  cases request with
  | login context => exact (Proceeds.generate config context).map fun _ _ => Stage.ends_pair
  | verify token =>
      refine (Proceeds.verify config token).map fun stage result heq => ?_
      rw [heq]
      exact ⟨nofun, fun ⟨_, hpair⟩ => nomatch hpair⟩
  | refresh token => exact (Proceeds.refresh config token).map fun _ _ => Stage.ends_pair
  | revoke token =>
      refine (Proceeds.revoke token).map fun stage result heq => ?_
      rw [heq]
      exact ⟨nofun, fun ⟨_, hpair⟩ => nomatch hpair⟩

end SessionTokens
