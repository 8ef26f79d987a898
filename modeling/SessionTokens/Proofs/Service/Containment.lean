import Mathlib.Data.List.Forall2
import SessionTokens.Service.TokenService
import SessionTokens.Service.Transcript

/-! # Failures of collaborators are contained

Each conversation of the service takes one of a few courses, which together are all that its
transcripts can be. The courses tell what a failure can come from and which calls were made before
it. Failures of the cache do not show: a conversation goes on in the same way as if nothing had been
found, or as if everything had been stored.
-/

namespace SessionTokens

open Time

/-- The identity that a look-up in the cache brings: none if it fails. -/
def foundIdentity : Except DomainError (Option SecurityContext) → Option SecurityContext
  | .ok found => found
  | .error _ => none

/-- Exchanges that differ at most in how the cache failed: a look-up that fails is alike to one that
finds nothing, and storing is alike however it is answered. -/
inductive Exchange.Alike : Exchange → Exchange → Prop
  | same (exchange : Exchange) : Alike exchange exchange
  | consulted {token : AccessToken} {answer other : Except DomainError (Option SecurityContext)} :
      foundIdentity answer = foundIdentity other →
        Alike (.consult token answer) (.consult token other)
  | remembered {token : AccessToken} {context : SecurityContext} {expiresAt : Instant}
      (answer other : Except DomainError (Option SecurityContext)) :
      Alike (.remember token context expiresAt answer) (.remember token context expiresAt other)

/-! ## Conversations that tolerate a failing cache -/

namespace Script

/-- A conversation that goes on in the same way whether the cache fails or knows nothing, and
whatever it answers when it is given something to store. -/
inductive Tolerates : Script α → Prop
  | done (result : α) : Tolerates (.done result)
  | readClock {next : Instant → Script α} :
      (∀ now, Tolerates (next now)) → Tolerates (.readClock next)
  | sign {claims : Claims} {secret : TokenSecret}
      {next : Except TokenError AccessToken → Script α} :
      (∀ answer, Tolerates (next answer)) → Tolerates (.sign claims secret next)
  | extract {token : AccessToken} {secret : TokenSecret}
      {next : Except TokenError Claims → Script α} :
      (∀ answer, Tolerates (next answer)) → Tolerates (.extract token secret next)
  | consult {token : AccessToken}
      {next : Except DomainError (Option SecurityContext) → Script α} :
      (∀ answer other, foundIdentity answer = foundIdentity other → next answer = next other) →
        (∀ answer, Tolerates (next answer)) → Tolerates (.consult token next)
  | remember {token : AccessToken} {context : SecurityContext} {expiresAt : Instant}
      {next : Except DomainError (Option SecurityContext) → Script α} :
      (∀ answer other, next answer = next other) →
        (∀ answer, Tolerates (next answer)) → Tolerates (.remember token context expiresAt next)
  | insertAndRemember {context : SecurityContext} {token : AccessToken} {expiresAt : Instant}
      {next : Except DomainError Record → Except DomainError (Option SecurityContext) → Script α} :
      (∀ inserted answer other, next inserted answer = next inserted other) →
        (∀ inserted answer, Tolerates (next inserted answer)) →
          Tolerates (.insertAndRemember context token expiresAt next)
  | revoke {token : RefreshToken} {next : Except DomainError Record → Script α} :
      (∀ answer, Tolerates (next answer)) → Tolerates (.revoke token next)

/-- Exchanges that are alike one by one lead to the same result. -/
theorem Tolerates.hasTranscript {script : Script α} (htolerates : script.Tolerates)
    {exchanges others : List Exchange} {result : α} (h : script.HasTranscript exchanges result)
    (halike : List.Forall₂ Exchange.Alike exchanges others) :
    script.HasTranscript others result := by
  -- each step takes one exchange off both lists; where the cache answers otherwise in the second,
  -- the rest of the conversation is still the same one
  induction htolerates generalizing exchanges others with
  | done =>
      cases h
      cases halike
      exact .done _
  | readClock _ ih =>
      cases h with
      | readClock now hrest =>
          cases halike with
          | cons hfirst hothers =>
              cases hfirst
              exact .readClock now (ih now hrest hothers)
  | sign _ ih =>
      cases h with
      | sign answer hrest =>
          cases halike with
          | cons hfirst hothers =>
              cases hfirst
              exact .sign answer (ih answer hrest hothers)
  | extract _ ih =>
      cases h with
      | extract answer hrest =>
          cases halike with
          | cons hfirst hothers =>
              cases hfirst
              exact .extract answer (ih answer hrest hothers)
  | consult hsame _ ih =>
      cases h with
      | consult answer hrest =>
          cases halike with
          | cons hfirst hothers =>
              cases hfirst with
              | same => exact .consult answer (ih answer hrest hothers)
              | @consulted _ _ other hfound =>
                  refine .consult other (ih other ?_ hothers)
                  rwa [← hsame answer other hfound]
  | remember hsame _ ih =>
      cases h with
      | remember answer hrest =>
          cases halike with
          | cons hfirst hothers =>
              cases hfirst with
              | same => exact .remember answer (ih answer hrest hothers)
              | remembered _ other =>
                  refine .remember other (ih other ?_ hothers)
                  rwa [← hsame answer other]
  | insertAndRemember hsame _ ih =>
      cases h with
      | insertFirst inserted answer hrest =>
          cases halike with
          | cons hfirst hothers =>
              cases hfirst
              cases hothers with
              | cons hsecond hothers =>
                  cases hsecond with
                  | same => exact .insertFirst inserted answer (ih inserted answer hrest hothers)
                  | remembered _ other =>
                      refine .insertFirst inserted other (ih inserted other ?_ hothers)
                      rwa [← hsame inserted answer other]
      | rememberFirst inserted answer hrest =>
          cases halike with
          | cons hfirst hothers =>
              cases hothers with
              | cons hsecond hothers =>
                  cases hsecond
                  cases hfirst with
                  | same => exact .rememberFirst inserted answer (ih inserted answer hrest hothers)
                  | remembered _ other =>
                      refine .rememberFirst inserted other (ih inserted other ?_ hothers)
                      rwa [← hsame inserted answer other]
  | revoke _ ih =>
      cases h with
      | revoke answer hrest =>
          cases halike with
          | cons hfirst hothers =>
              cases hfirst
              exact .revoke answer (ih answer hrest hothers)

end Script

namespace TokenService

variable {config : ServiceConfig} {context : SecurityContext} {exchanges : List Exchange}

theorem generate_tolerates (config : ServiceConfig) (context : SecurityContext) :
    (generate config context).Tolerates := by
  refine .readClock fun issuedAt => ?_
  split
  next => exact .done _
  next claims _ =>
    refine .sign fun signed => ?_
    cases signed with
    | error => exact .done _
    | ok accessToken =>
        refine .insertAndRemember (fun _ _ _ => rfl) fun inserted _ => ?_
        exact .done _

theorem verifyAfresh_tolerates (config : ServiceConfig) (token : AccessToken) :
    (verifyAfresh config token).Tolerates := by
  refine .extract fun extracted => ?_
  cases extracted with
  | error => exact .done _
  | ok claims =>
      refine .readClock fun now => ?_
      split
      next => exact .done _
      next => exact .remember (fun _ _ => rfl) fun _ => .done _

theorem verify_tolerates (config : ServiceConfig) (token : AccessToken) :
    (verify config token).Tolerates := by
  refine .consult ?_ ?_
  · intro answer other hfound
    -- an answer is a failure, nothing, or an identity; the first two bring none
    rcases answer with _ | _ | _ <;> rcases other with _ | _ | _ <;> cases hfound <;> rfl
  · intro answer
    split
    next => exact .done _
    next => exact verifyAfresh_tolerates config token

theorem redeem_tolerates (config : ServiceConfig) (record : Record) (revokedAt : Instant) :
    (redeem config record revokedAt).Tolerates := by
  unfold redeem
  split
  next => exact .done _
  next => exact generate_tolerates config record.context

theorem refresh_tolerates (config : ServiceConfig) (token : RefreshToken) :
    (refresh config token).Tolerates := by
  refine .revoke fun revoked => ?_
  cases revoked with
  | error => exact .done _
  | ok record =>
      dsimp only
      split
      next revokedAt _ => exact redeem_tolerates config record revokedAt
      next => exact .readClock fun now => redeem_tolerates config record now

/-! ## The courses that conversations take -/

/-- The courses of generating a pair. -/
inductive GenerateCourse (config : ServiceConfig) (context : SecurityContext) :
    List Exchange → Except DomainError TokenPair → Prop
  | unclaimed {issuedAt : Instant} {cause : TokenError} :
      Claims.forContext config.issuer context issuedAt config.accessLifetime = .error cause →
        GenerateCourse config context [.readClock issuedAt] (.error (.token .generationFailed))
  | unsigned {issuedAt : Instant} {claims : Claims} (refusal : TokenError) :
      Claims.forContext config.issuer context issuedAt config.accessLifetime = .ok claims →
        GenerateCourse config context
          [.readClock issuedAt, .sign claims config.secret (.error refusal)]
          (.error (.token .generationFailed))
  | stored {issuedAt : Instant} {claims : Claims} {accessToken : AccessToken}
      {inserted : Except DomainError Record}
      {remembered : Except DomainError (Option SecurityContext)} {calls : List Exchange} :
      Claims.forContext config.issuer context issuedAt config.accessLifetime = .ok claims →
        calls.Perm [.insert context inserted,
          .remember accessToken context claims.expiresAt remembered] →
          GenerateCourse config context
            (.readClock issuedAt :: .sign claims config.secret (.ok accessToken) :: calls)
            (inserted.map fun record => {
              refreshToken := record.token
              accessToken
              accessExpiresAt := claims.expiresAt
              refreshExpiresAt := record.expiresAt })

theorem forContext_eq_error {issuer : String} {issuedAt : Instant} {lifetime : Duration}
    {cause : TokenError} (h : Claims.forContext issuer context issuedAt lifetime = .error cause) :
    cause = .generationFailed := by
  unfold Claims.forContext at h
  split at h <;> cases h
  rfl

theorem generate_course {result : Except DomainError TokenPair}
    (h : (generate config context).HasTranscript exchanges result) :
    GenerateCourse config context exchanges result := by
  cases h with
  | readClock issuedAt h =>
      dsimp only at h
      split at h
      next cause hclaims =>
        cases h
        rw [forContext_eq_error hclaims]
        exact .unclaimed hclaims
      next claims hclaims =>
        cases h with
        | sign answer h =>
            cases answer with
            | error refusal =>
                cases h
                exact .unsigned refusal hclaims
            | ok accessToken =>
                -- the two calls that are left are made in either order
                cases h with
                | insertFirst inserted remembered h =>
                    cases h
                    have hstored := GenerateCourse.stored hclaims (.refl [Exchange.insert context inserted,
                      Exchange.remember accessToken context claims.expiresAt remembered])
                    cases inserted <;> exact hstored
                | rememberFirst inserted remembered h =>
                    cases h
                    have hstored := GenerateCourse.stored hclaims
                      (.swap (Exchange.insert context inserted)
                        (Exchange.remember accessToken context claims.expiresAt remembered) [])
                    cases inserted <;> exact hstored

/-- The courses of verifying a token. -/
inductive VerifyCourse (config : ServiceConfig) (token : AccessToken) :
    List Exchange → Except DomainError SecurityContext → Prop
  | known (context : SecurityContext) :
      VerifyCourse config token [.consult token (.ok (some context))] (.ok context)
  | unextracted {answer : Except DomainError (Option SecurityContext)} (refusal : TokenError) :
      VerifyCourse config token
        [.consult token answer, .extract token config.secret (.error refusal)]
        (.error (.token .claimsExtraction))
  | invalid {answer : Except DomainError (Option SecurityContext)} {claims : Claims}
      {now : Instant} {violations : Violations} :
      claims.validate now = .invalid violations →
        VerifyCourse config token
          [.consult token answer, .extract token config.secret (.ok claims), .readClock now]
          (.error (.invalidClaims violations))
  | valid {answer remembered : Except DomainError (Option SecurityContext)} {claims : Claims}
      {now : Instant} {context : SecurityContext} :
      claims.validate now = .valid context →
        VerifyCourse config token
          [.consult token answer, .extract token config.secret (.ok claims), .readClock now,
            .remember token context claims.expiresAt remembered] (.ok context)

theorem verifyAfresh_course {token : AccessToken}
    {answer : Except DomainError (Option SecurityContext)}
    {result : Except DomainError SecurityContext}
    (h : (verifyAfresh config token).HasTranscript exchanges result) :
    VerifyCourse config token (.consult token answer :: exchanges) result := by
  cases h with
  | extract extracted h =>
      cases extracted with
      | error refusal =>
          cases h
          exact .unextracted refusal
      | ok claims =>
          cases h with
          | readClock now h =>
              dsimp only at h
              split at h
              next violations hinvalid =>
                cases h
                exact .invalid hinvalid
              next context hvalid =>
                cases h with
                | remember remembered h =>
                    cases h
                    exact .valid hvalid

theorem verify_course {token : AccessToken} {result : Except DomainError SecurityContext}
    (h : (verify config token).HasTranscript exchanges result) :
    VerifyCourse config token exchanges result := by
  cases h with
  | consult answer h =>
      dsimp only at h
      split at h
      next context =>
        cases h
        exact .known context
      next => exact verifyAfresh_course h

/-- When a record that was given as revoked counts as revoked: at the time that it carries, or at a
reading of the clock that is taken for want of one. -/
inductive RevokedAt (record : Record) : List Exchange → Instant → Prop
  | recorded {time : Instant} : record.revokedAt = some time → RevokedAt record [] time
  | read (now : Instant) : record.revokedAt = none → RevokedAt record [.readClock now] now

/-- The courses of refreshing a token. -/
inductive RefreshCourse (config : ServiceConfig) (token : RefreshToken) :
    List Exchange → Except DomainError TokenPair → Prop
  | refused (failure : DomainError) :
      RefreshCourse config token [.revoke token (.error failure)] (.error failure)
  | lapsed {record : Record} {readings : List Exchange} {revokedAt : Instant} :
      RevokedAt record readings revokedAt → record.isExpiredAt revokedAt = true →
        RefreshCourse config token (.revoke token (.ok record) :: readings)
          (.error (.token .expired))
  | redeemed {record : Record} {readings calls : List Exchange} {revokedAt : Instant}
      {result : Except DomainError TokenPair} :
      RevokedAt record readings revokedAt → record.isExpiredAt revokedAt = false →
        GenerateCourse config record.context calls result →
          RefreshCourse config token (.revoke token (.ok record) :: (readings ++ calls)) result

theorem redeem_course {token : RefreshToken} {record : Record} {readings : List Exchange}
    {revokedAt : Instant} (hrevoked : RevokedAt record readings revokedAt)
    {result : Except DomainError TokenPair}
    (h : (redeem config record revokedAt).HasTranscript exchanges result) :
    RefreshCourse config token (.revoke token (.ok record) :: (readings ++ exchanges)) result := by
  unfold redeem at h
  split at h
  next hexpired =>
    cases h
    rw [List.append_nil]
    exact .lapsed hrevoked hexpired
  next hleft => exact .redeemed hrevoked (eq_false_of_ne_true hleft) (generate_course h)

theorem refresh_course {token : RefreshToken} {result : Except DomainError TokenPair}
    (h : (refresh config token).HasTranscript exchanges result) :
    RefreshCourse config token exchanges result := by
  cases h with
  | revoke answer h =>
      cases answer with
      | error failure =>
          cases h
          exact .refused failure
      | ok record =>
          dsimp only at h
          split at h
          next revokedAt hrecorded => exact redeem_course (.recorded hrecorded) h
          next hmissing =>
            cases h with
            | readClock now h => exact redeem_course (.read now hmissing) h

/-! ## What failures come from -/

/-- What a pair is not generated for: no token was made, or the store failed to take its record. -/
def GenerateFailsFor (context : SecurityContext) (exchanges : List Exchange)
    (failure : DomainError) : Prop :=
  failure = .token .generationFailed ∨ .insert context (.error failure) ∈ exchanges

/-- No token could be made: the claims could not be built at the time that the clock gave, or the
signer refused. -/
def MakesNoToken (config : ServiceConfig) (context : SecurityContext)
    (exchanges : List Exchange) : Prop :=
  (∃ issuedAt cause, .readClock issuedAt ∈ exchanges ∧
    Claims.forContext config.issuer context issuedAt config.accessLifetime = .error cause) ∨
  ∃ claims secret refusal, .sign claims secret (.error refusal) ∈ exchanges

theorem GenerateCourse.failsFor {failure : DomainError}
    (h : GenerateCourse config context exchanges (.error failure)) :
    GenerateFailsFor context exchanges failure := by
  generalize hresult : Except.error failure = result at h
  cases h with
  | unclaimed => exact .inl (Except.error.inj hresult)
  | unsigned => exact .inl (Except.error.inj hresult)
  | @stored issuedAt claims accessToken inserted remembered calls hclaims hcalls =>
      cases inserted with
      | ok record => cases hresult
      | error cause =>
          cases hresult
          exact .inr (by simp [hcalls.mem_iff])

theorem GenerateCourse.stops {result : Except DomainError TokenPair}
    (h : GenerateCourse config context exchanges result)
    (hnone : MakesNoToken config context exchanges) :
    result = .error (.token .generationFailed) ∧
      ∀ exchange ∈ exchanges, exchange.party ≠ .store ∧ exchange.party ≠ .cache := by
  cases h with
  | unclaimed => exact ⟨rfl, by simp [Exchange.party]⟩
  | unsigned => exact ⟨rfl, by simp [Exchange.party]⟩
  | stored hclaims hcalls =>
      -- a token was made, so that nothing kept the claims or the signature from being made
      exfalso
      rcases hnone with ⟨now, cause, hread, hunclaimed⟩ | ⟨claims, secret, refusal, hrefused⟩
      · simp only [List.mem_cons, Exchange.readClock.injEq, reduceCtorEq, hcalls.mem_iff,
          List.not_mem_nil, or_false] at hread
        rw [hread, hclaims] at hunclaimed
        cases hunclaimed
      · simp [hcalls.mem_iff] at hrefused

theorem VerifyCourse.failsFor {token : AccessToken} {failure : DomainError}
    (h : VerifyCourse config token exchanges (.error failure)) :
    failure = .token .claimsExtraction ∨
      ∃ violations, failure = .invalidClaims violations ∧ violations.toList ≠ [] := by
  cases h with
  | unextracted => exact .inl rfl
  | invalid => exact .inr ⟨_, rfl, Violations.toList_ne_nil _⟩

theorem RefreshCourse.failsFor {token : RefreshToken} {failure : DomainError}
    (h : RefreshCourse config token exchanges (.error failure)) :
    .revoke token (.error failure) ∈ exchanges ∨ failure = .token .expired ∨
      ∃ context, GenerateFailsFor context exchanges failure := by
  cases h with
  | refused => exact .inl List.mem_cons_self
  | lapsed => exact .inr (.inl rfl)
  | @redeemed record readings calls revokedAt _ hrevoked hleft hgenerate =>
      refine .inr (.inr ⟨record.context, ?_⟩)
      rcases hgenerate.failsFor with hfailure | hinsert
      · exact .inl hfailure
      · exact .inr (List.mem_cons_of_mem _ (List.mem_append_right readings hinsert))

/-- Until it is known when the record was revoked, only the revocation and the clock are asked. -/
theorem RevokedAt.not_mem {token : RefreshToken} {record : Record} {readings : List Exchange}
    {revokedAt : Instant} {exchange : Exchange} (h : RevokedAt record readings revokedAt)
    (hclock : exchange.party ≠ .clock) (hrevoke : ∀ answer, exchange ≠ .revoke token answer) :
    exchange ∉ Exchange.revoke token (.ok record) :: readings := by
  intro hmem
  cases h with
  | recorded => exact hrevoke _ (List.mem_singleton.mp hmem)
  | read =>
      rcases List.mem_pair.mp hmem with rfl | rfl
      · exact hrevoke _ rfl
      · exact hclock rfl

/-- A call that is neither the revocation of the token nor a reading of the clock is made only after
the revocation gave a record that was not expired. -/
theorem RefreshCourse.waits {token : RefreshToken} {result : Except DomainError TokenPair}
    {before after : List Exchange} {exchange : Exchange}
    (h : RefreshCourse config token (before ++ exchange :: after) result)
    (hclock : exchange.party ≠ .clock) (hrevoke : ∀ answer, exchange ≠ .revoke token answer) :
    ∃ record readings revokedAt, RevokedAt record readings revokedAt ∧
      record.isExpiredAt revokedAt = false ∧
        (Exchange.revoke token (.ok record) :: readings) <+: before := by
  generalize hexchanges : before ++ exchange :: after = exchanges at h
  have hmem : exchange ∈ exchanges := by simp [← hexchanges]
  cases h with
  | refused => exact absurd (List.mem_singleton.mp hmem) (hrevoke _)
  | lapsed hrevoked => exact absurd hmem (hrevoked.not_mem hclock hrevoke)
  | @redeemed record readings calls revokedAt _ hrevoked hleft =>
      refine ⟨record, readings, revokedAt, hrevoked, hleft, ?_⟩
      rw [← List.cons_append, List.append_eq_append_iff] at hexchanges
      rcases hexchanges with ⟨rest, hhead, hrest⟩ | ⟨rest, rfl, -⟩
      · cases rest with
        | nil => exact ⟨[], by simp [hhead]⟩
        | cons first rest =>
            -- the call would be the revocation or the reading of the clock
            obtain ⟨rfl, -⟩ := List.cons.inj hrest
            have hfirst : exchange ∈ Exchange.revoke token (.ok record) :: readings := by
              simp [hhead]
            exact absurd hfirst (hrevoked.not_mem hclock hrevoke)
      · exact List.prefix_append _ rest

/-! ## The service -/

/-- How far failures of collaborators reach, over all transcripts and so over everything that the
signer, the cache and the store can answer. -/
structure ContainsFailures (config : ServiceConfig) : Prop where
  /-- Whoever answers a conversation, there is a transcript of it. -/
  covered : ∀ {α σ : Type} (c : Collaborators σ) (script : Script α) (world : σ),
    script.HasTranscript (script.exchanges c world) (script.run c world).1
  verify_fails : ∀ token exchanges failure,
    (verify config token).HasTranscript exchanges (.error failure) →
      failure = .token .claimsExtraction ∨
        ∃ violations, failure = .invalidClaims violations ∧ violations.toList ≠ []
  generate_fails : ∀ context exchanges failure,
    (generate config context).HasTranscript exchanges (.error failure) →
      GenerateFailsFor context exchanges failure
  generate_stops : ∀ context exchanges result,
    (generate config context).HasTranscript exchanges result →
      MakesNoToken config context exchanges →
        result = .error (.token .generationFailed) ∧
          ∀ exchange ∈ exchanges, exchange.party ≠ .store ∧ exchange.party ≠ .cache
  refresh_fails : ∀ token exchanges failure,
    (refresh config token).HasTranscript exchanges (.error failure) →
      .revoke token (.error failure) ∈ exchanges ∨ failure = .token .expired ∨
        ∃ context, GenerateFailsFor context exchanges failure
  /-- Neither the signer nor the cache is called, and nothing is inserted, before the token was
  revoked and found not to have expired by then. -/
  refresh_waits : ∀ token before exchange after result,
    (refresh config token).HasTranscript (before ++ exchange :: after) result →
      exchange.party ≠ .clock → (∀ answer, exchange ≠ .revoke token answer) →
        ∃ record readings revokedAt, RevokedAt record readings revokedAt ∧
          record.isExpiredAt revokedAt = false ∧
            (Exchange.revoke token (.ok record) :: readings) <+: before
  verify_tolerates : ∀ token exchanges others result,
    (verify config token).HasTranscript exchanges result →
      List.Forall₂ Exchange.Alike exchanges others →
        (verify config token).HasTranscript others result
  generate_tolerates : ∀ context exchanges others result,
    (generate config context).HasTranscript exchanges result →
      List.Forall₂ Exchange.Alike exchanges others →
        (generate config context).HasTranscript others result
  refresh_tolerates : ∀ token exchanges others result,
    (refresh config token).HasTranscript exchanges result →
      List.Forall₂ Exchange.Alike exchanges others →
        (refresh config token).HasTranscript others result

/-- Failures of the signer, the cache and the store reach no farther than they have to. -/
theorem service_containsFailures (config : ServiceConfig) : ContainsFailures config where
  covered c script world := Script.run_hasTranscript c script world
  verify_fails _ _ _ h := (verify_course h).failsFor
  generate_fails _ _ _ h := (generate_course h).failsFor
  generate_stops _ _ _ h hnone := (generate_course h).stops hnone
  refresh_fails _ _ _ h := (refresh_course h).failsFor
  refresh_waits _ _ _ _ _ h hclock hrevoke := (refresh_course h).waits hclock hrevoke
  verify_tolerates token _ _ _ h halike := (verify_tolerates config token).hasTranscript h halike
  generate_tolerates context _ _ _ h halike :=
    (generate_tolerates config context).hasTranscript h halike
  refresh_tolerates token _ _ _ h halike := (refresh_tolerates config token).hasTranscript h halike

end TokenService

end SessionTokens
