import SessionTokens.Proofs.Service.CacheTransparency
import SessionTokens.Proofs.Service.Calls
import SessionTokens.Proofs.Service.Conduct
import SessionTokens.Proofs.Service.Evolution

/-! # What calls are answered

A call keeps those of its own steps that matter for its reply, and its reply fits them: a pair has
an access token that was signed for the context that logs in, or for that of the record which a
refresh has taken, and an identity or a failure to tell one is what the token comes to by itself at
a reading of the clock. The cache has no say in that, as long as every entry is vouched for.
-/

namespace SessionTokens

open Time

/-- What verifying a token afresh comes to at a reading of the clock. -/
def TokenService.verdict (config : ServiceConfig) (token : AccessToken) (now : Instant) :
    Except DomainError SecurityContext :=
  match Jwt.extract token config.secret with
  | .error _ => .error (.token .claimsExtraction)
  | .ok claims =>
      match claims.validate now with
      | .invalid violations => .error (.invalidClaims violations)
      | .valid context => .ok context

theorem TokenService.verdict_of_valid {config : ServiceConfig} {token : AccessToken}
    {claims : Claims} {now : Instant} {context : SecurityContext}
    (hextract : Jwt.extract token config.secret = .ok claims)
    (hvalid : claims.validate now = .valid context) :
    verdict config token now = .ok context := by
  simp only [verdict, hextract, hvalid]

/-- A pair has an access token for a context, with the expiry that the pair tells. -/
def TokenPairOver.IsMadeFor (pair : TokenPair) (config : ServiceConfig)
    (context : SecurityContext) : Prop :=
  ∃ issuedAt claims,
    Claims.forContext config.issuer context issuedAt config.accessLifetime = .ok claims ∧
      pair.accessToken = Jwt.sign claims config.secret ∧ pair.accessExpiresAt = claims.expiresAt

/-! ## Deployments that stay vouched for -/

namespace Deployment

variable {config : ServiceConfig} {works : Bool} {d : Deployment}

theorem IsVouched.insertAt (h : IsVouched config works d) (reading : Instant)
    (context : SecurityContext) : IsVouched config works (d.insertAt reading context).2 :=
  unlessRefused_elim (IsVouched config works) h (h.frame ..)

theorem IsVouched.storeRevoke (h : IsVouched config works d) (token : RefreshToken) :
    IsVouched config works (d.storeRevoke token).2 :=
  unlessRefused_elim (IsVouched config works) h (h.frame ..)

theorem IsVouched.consult (h : IsVouched config works d) (token : AccessToken) :
    IsVouched config works (d.consult token).2 :=
  ⟨h.config_eq, h.signerWorks_eq, h.entries.get d.clock.now token⟩

theorem IsVouched.remember (h : IsVouched config works d) {token : AccessToken}
    {context : SecurityContext} {expiresAt : Instant}
    (hentry : ∀ life, VouchedFor config works token ⟨context, expiresAt, life⟩) :
    IsVouched config works (d.remember token context expiresAt).2 :=
  ⟨h.config_eq, h.signerWorks_eq, h.entries.put hentry⟩

theorem IsVouched.verdict_of_hit (h : IsVouched config works d) {token : AccessToken}
    {context : SecurityContext} (hhit : (d.consult token).1 = .ok (some context)) :
    TokenService.verdict config token d.clock.now = .ok context := by
  obtain ⟨entry, ⟨-, claims, hextract, hvalid⟩, hlive, rfl⟩ := h.entries.answer hhit
  exact TokenService.verdict_of_valid hextract (hvalid d.clock.now d.clock.isWhole hlive)

theorem insertAt_store (d : Deployment) (reading : Instant) (context : SecurityContext) :
    (d.insertAt reading context).2.store = d.store ∨
      (d.insertAt reading context).2.store =
        d.store.apply (.insert d.refreshLifetime reading (d.ids d.drawn) context) := by
  refine unlessRefused_elim (fun after => after.store = d.store ∨ after.store = _) (.inl rfl) ?_
  exact .inr rfl

end Deployment

/-! ## Conversations -/

open Deployment

/-- A step of a call, answered by a deployment whose cache is vouched for, leaves such a deployment.
The call keeps the step or passes it over; it keeps every step that takes a record. -/
structure Records (config : ServiceConfig) (index : Nat) (request : Request)
    (own : List CallStep) (before after : Deployment) (next : List CallStep) : Prop where
  vouched : IsVouched config true after
  keeps : next = own ∨ next = ⟨index, request, before, after⟩ :: own
  takes : ∀ token record, CallStep.Takes ⟨index, request, before, after⟩ token record →
    ⟨index, request, before, after⟩ ∈ next

/-- A conversation whose result will fit the steps that are kept. -/
abbrev Replies (config : ServiceConfig) (index : Nat) (request : Request)
    (fits : List CallStep → α → Prop) : List CallStep → Script α → Prop :=
  Script.Conducts (IsVouched config true) (Records config index request) fits

namespace Records

variable {config : ServiceConfig} {index : Nat} {request : Request} {own : List CallStep}
  {before after : Deployment}

theorem skip (hvouched : IsVouched config true after)
    (htakes : ∀ token record, ¬ CallStep.Takes ⟨index, request, before, after⟩ token record) :
    Records config index request own before after own where
  vouched := hvouched
  keeps := .inl rfl
  takes token record h := absurd h (htakes token record)

theorem skip_of_store_eq (hvouched : IsVouched config true after)
    (hstore : after.store = before.store) :
    Records config index request own before after own :=
  skip hvouched fun _ _ => CallStep.not_takes_of_store_eq hstore

theorem skip_insertAt {d : Deployment} (hd : IsVouched config true d) (reading : Instant)
    (context : SecurityContext) :
    Records config index request own d (d.insertAt reading context).2 own := by
  refine .skip (hd.insertAt reading context) fun token record => ?_
  rcases d.insertAt_store reading context with hstore | hstore
  · exact CallStep.not_takes_of_store_eq hstore
  · exact CallStep.not_takes_of_insert hstore

theorem keep (hvouched : IsVouched config true after) :
    Records config index request own before after (⟨index, request, before, after⟩ :: own) where
  vouched := hvouched
  keeps := .inr rfl
  takes _ _ _ := List.mem_cons_self

end Records

namespace Replies

variable {config : ServiceConfig} {index : Nat} {request : Request} {own : List CallStep}
  {fits : List CallStep → α → Prop}

/-- The reading does not matter for the result. -/
theorem readClock {next : Instant → Script α}
    (h : ∀ now, Replies config index request fits own (next now)) :
    Replies config index request fits own (.readClock next) :=
  .goesOn (fun _ _ _ => own) nofun (fun _ _ _ hd => .skip_of_store_eq hd rfl) fun _ _ _ _ => h _

/-- The result is the one at the reading. -/
theorem keepClock {next : Instant → Script α}
    (h : ∀ d : Deployment, Replies config index request fits (⟨index, request, d, d⟩ :: own)
      (next d.clock.now)) :
    Replies config index request fits own (.readClock next) :=
  .goesOn (fun d _ _ => ⟨index, request, d, d⟩ :: own) nofun (fun _ _ _ hd => .keep hd)
    fun d _ _ _ => h d

theorem sign {claims : Claims} {secret : TokenSecret}
    {next : Except TokenError AccessToken → Script α}
    (h : Replies config index request fits own (next (.ok (Jwt.sign claims secret)))) :
    Replies config index request fits own (.sign claims secret next) := by
  refine .goesOn (fun _ _ _ => own) nofun (fun _ _ _ hd => .skip_of_store_eq (hd.frame ..) rfl) ?_
  intro d cacheFirst reading hd
  have hanswer : (d.sign claims secret).1 = .ok (Jwt.sign claims secret) := by
    simp only [Deployment.sign, hd.signerWorks_eq, if_true]
  simp only [Script.step, collaboratorsAt, collaborators, hanswer]
  exact h

theorem extract {token : AccessToken} {secret : TokenSecret}
    {next : Except TokenError Claims → Script α}
    (h : Replies config index request fits own (next (Jwt.extract token secret))) :
    Replies config index request fits own (.extract token secret next) := by
  refine .goesOn (fun _ _ _ => own) nofun (fun _ _ _ hd => .skip_of_store_eq (hd.frame ..) rfl) ?_
  intro d cacheFirst reading hd
  have hanswer : (d.extract token secret).1 = Jwt.extract token secret := by
    simp only [Deployment.extract, hd.signerWorks_eq, if_true]
  simp only [Script.step, collaboratorsAt, collaborators, hanswer]
  exact h

theorem consult {token : AccessToken}
    {next : Except DomainError (Option SecurityContext) → Script α}
    (h : ∀ d, IsVouched config true d →
      Replies config index request fits (⟨index, request, d, (d.consult token).2⟩ :: own)
        (next (d.consult token).1)) :
    Replies config index request fits own (.consult token next) :=
  .goesOn (fun d _ _ => ⟨index, request, d, (d.consult token).2⟩ :: own) nofun
    (fun _ _ _ hd => .keep (hd.consult token)) fun d _ _ hd => h d hd

theorem remember {token : AccessToken} {context : SecurityContext} {expiresAt : Instant}
    {next : Except DomainError (Option SecurityContext) → Script α}
    (hentry : ∀ life, VouchedFor config true token ⟨context, expiresAt, life⟩)
    (h : ∀ answer, Replies config index request fits own (next answer)) :
    Replies config index request fits own (.remember token context expiresAt next) :=
  .goesOn (fun _ _ _ => own) nofun
    (fun _ _ _ hd => .skip_of_store_eq (hd.remember hentry) rfl) fun _ _ _ _ => h _

theorem insert {context : SecurityContext} {next : Except DomainError Record → Script α}
    (h : ∀ answer, Replies config index request fits own (next answer)) :
    Replies config index request fits own (.insert context next) :=
  .goesOn (fun _ _ _ => own) nofun (fun _ _ reading hd => .skip_insertAt hd reading context)
    fun _ _ _ _ => h _

/-- Whichever of the two calls comes first, the other one is left to be made. -/
theorem insertAndRemember {token : AccessToken} {context : SecurityContext} {expiresAt : Instant}
    {next : Except DomainError Record → Except DomainError (Option SecurityContext) → Script α}
    (hentry : ∀ life, VouchedFor config true token ⟨context, expiresAt, life⟩)
    (h : ∀ inserted remembered,
      Replies config index request fits own (next inserted remembered)) :
    Replies config index request fits own
      (.insertAndRemember context token expiresAt next) := by
  refine .goesOn (fun _ _ _ => own) nofun ?_ ?_
  · intro d cacheFirst reading hd
    cases cacheFirst with
    | true => exact .skip_of_store_eq (hd.remember hentry) rfl
    | false => exact .skip_insertAt hd reading context
  · intro d cacheFirst reading hd
    cases cacheFirst with
    | true => exact insert fun inserted => h inserted _
    | false => exact remember hentry fun remembered => h _ remembered

theorem revoke {token : RefreshToken} {next : Except DomainError Record → Script α}
    (h : ∀ d, Replies config index request fits
      (⟨index, request, d, (d.storeRevoke token).2⟩ :: own) (next (d.storeRevoke token).1)) :
    Replies config index request fits own (.revoke token next) :=
  .goesOn (fun d _ _ => ⟨index, request, d, (d.storeRevoke token).2⟩ :: own) nofun
    (fun _ _ _ hd => .keep (hd.storeRevoke token)) fun d _ _ _ => h d

/-! ## The service -/

/-- Whatever pair is generated, it is made for the context. No step of it need be kept. -/
theorem generate {context : SecurityContext}
    {fits : List CallStep → Except DomainError TokenPair → Prop}
    (h : ∀ result, (∀ pair : TokenPair, result = .ok pair → pair.IsMadeFor config context) →
      fits own result) :
    Replies config index request fits own (TokenService.generate config context) := by
  refine readClock fun issuedAt => ?_
  split
  next => exact .finished (h (.error _) fun _ heq => nomatch heq)
  next claims hclaims =>
    refine sign (insertAndRemember (TokenService.vouchedFor_sign hclaims) fun inserted _ => ?_)
    refine .finished (h _ fun pair heq => ?_)
    split at heq
    next => cases heq
    next record =>
      cases heq
      exact ⟨issuedAt, claims, hclaims, rfl, rfl⟩

/-- A verification tells the verdict at the reading of the clock in one of its steps. -/
theorem verify (token : AccessToken) :
    Replies config index request
      (fun kept result =>
        ∃ step ∈ kept, result = TokenService.verdict config token step.before.clock.now)
      own (TokenService.verify config token) := by
  refine consult fun d hd => ?_
  split
  next context hhit =>
    exact .finished ⟨_, List.mem_cons_self, (hd.verdict_of_hit hhit).symm⟩
  next =>
    refine extract ?_
    cases hextract : Jwt.extract token config.secret with
    | error cause =>
        refine .finished ⟨_, List.mem_cons_self, ?_⟩
        simp only [TokenService.verdict, hextract]
    | ok claims =>
        refine keepClock fun d => ?_
        split
        next violations hinvalid =>
          refine .finished ⟨_, List.mem_cons_self, ?_⟩
          simp only [TokenService.verdict, hextract, hinvalid]
        next context hvalid =>
          refine remember (TokenService.vouchedFor_verified hextract hvalid) fun _ => ?_
          refine .finished ⟨_, List.mem_cons_self, ?_⟩
          rw [TokenService.verdict_of_valid hextract hvalid]

/-- A refresh is given a pair only if it has taken a record, and for the context of that record. -/
theorem refresh (token : RefreshToken) :
    Replies config index request
      (fun kept result => ∀ pair : TokenPair, result = .ok pair →
        (∃ step ∈ kept, ∃ record, step.Takes token record) ∧
          ∀ step ∈ kept, ∀ record, step.Takes token record →
            pair.IsMadeFor config record.context)
      [] (TokenService.refresh config token) := by
  refine revoke fun d => ?_
  cases hanswer : (d.storeRevoke token).1 with
  | error failure => exact .finished fun _ heq => nomatch heq
  | ok revoked =>
      obtain ⟨record, hfound, hactive, rfl, hleft⟩ := storeRevoke_eq_ok hanswer
      simp only [Record.revoke]
      unfold TokenService.redeem
      split
      next => exact .finished fun _ heq => nomatch heq
      next =>
        -- the one step that was made has taken this record and no other
        refine generate fun result hmade pair hpair => ?_
        refine ⟨⟨_, List.mem_cons_self, record, hfound, hactive, hleft⟩, ?_⟩
        intro step hmem other hother
        cases List.mem_singleton.mp hmem
        cases hfound.symm.trans hother.1
        exact hmade pair hpair

theorem revokeOnly (token : RefreshToken) :
    Replies config index request (fun _ _ => True) own (TokenService.revoke token) := by
  refine revoke fun d => ?_
  cases (d.storeRevoke token).1 with
  | error failure => exact .finished trivial
  | ok record => exact .finished trivial

end Replies

/-- What a call can be answered, given those of its steps that it has kept. -/
def Request.Fits (config : ServiceConfig) (kept : List CallStep) (reply : Reply) :
    Request → Prop
  | .login context =>
      ∀ pair : TokenPair, reply = .pair (.ok pair) → pair.IsMadeFor config context
  | .verify token =>
      ∃ step ∈ kept, reply = .identity (TokenService.verdict config token step.before.clock.now)
  | .refresh token =>
      ∀ pair : TokenPair, reply = .pair (.ok pair) →
        (∃ step ∈ kept, ∃ record, step.Takes token record) ∧
          ∀ step ∈ kept, ∀ record, step.Takes token record →
            pair.IsMadeFor config record.context
  | .revoke _ => ∀ pair, reply ≠ .pair (.ok pair)

theorem Request.script_replies (config : ServiceConfig) (index : Nat) (request : Request) :
    Replies config index request (fun kept reply => request.Fits config kept reply) []
      (request.script config) := by
  cases request with
  | login context =>
      have hgenerate : Replies config index (.login context)
          (fun _ result => ∀ pair : TokenPair, result = .ok pair → pair.IsMadeFor config context)
          [] (TokenService.generate config context) := Replies.generate fun _ hmade => hmade
      refine hgenerate.map fun kept result hmade pair heq => ?_
      cases heq
      exact hmade pair rfl
  | verify token =>
      refine (Replies.verify token).map fun kept result hresult => ?_
      obtain ⟨step, hmem, rfl⟩ := hresult
      exact ⟨step, hmem, rfl⟩
  | refresh token =>
      refine (Replies.refresh token).map fun kept result hresult pair heq => ?_
      cases heq
      exact hresult pair rfl
  | revoke token => exact (Replies.revokeOnly token).map fun _ _ _ _ heq => nomatch heq

end SessionTokens
