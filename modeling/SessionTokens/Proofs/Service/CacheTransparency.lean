import SessionTokens.Proofs.Cache.Entries
import SessionTokens.Proofs.Jwt.RoundTrip
import SessionTokens.Proofs.Service.Verification
import SessionTokens.Service.Deployment

/-! # The cache does not change answers

A service with a cache that only it writes answers as the same service without one. Each entry is
vouched for: the token that it is kept for would be verified for the same identity at every reading
of the clock up to the expiry of the entry. Such an entry may be stored by a login, whose claims
are not cut down to whole seconds, or by a verification, whose claims are; the clock reads whole
seconds, so that both agree.
-/

namespace SessionTokens

open Time

/-- An entry says what verifying its token afresh would say, now and later. -/
def VouchedFor (config : ServiceConfig) (signerWorks : Bool) (token : AccessToken)
    (entry : CacheEntry) : Prop :=
  signerWorks = true ∧ ∃ claims, Jwt.extract token config.secret = .ok claims ∧
    ∀ now : Instant, now.IsWhole → now ≤ entry.expiresAt →
      claims.validate now = .valid entry.context

namespace Deployment

/-- A deployment with a configuration and a signer, in which every entry of the cache is vouched
for. -/
structure IsVouched (config : ServiceConfig) (signerWorks : Bool) (d : Deployment) : Prop where
  config_eq : d.config = config
  signerWorks_eq : d.signerWorks = signerWorks
  entries : d.cache.AllEntries (VouchedFor config signerWorks)

/-- The same deployment without a cache. It may have extracted another number of tokens. -/
def withoutCache (d : Deployment) (extracted : Nat) : Deployment :=
  { d with cache := .off, extracted }

/-- An action is answered alike with a cache that is vouched for and without one, and leaves
deployments that differ in nothing else. -/
def IsTransparent (config : ServiceConfig) (signerWorks : Bool)
    (act : Deployment → α × Deployment) : Prop :=
  ∀ d n, IsVouched config signerWorks d →
    IsVouched config signerWorks (act d).2 ∧
      ∃ m, act (d.withoutCache n) = ((act d).1, (act d).2.withoutCache m)

variable {config : ServiceConfig} {works : Bool}

namespace IsTransparent

theorem pure (result : α) : IsTransparent config works fun d => (result, d) :=
  fun _ n h => ⟨h, n, rfl⟩

theorem map {act : Deployment → α × Deployment} (h : IsTransparent config works act)
    (f : α → β) : IsTransparent config works fun d => (f (act d).1, (act d).2) := by
  intro d n hd
  obtain ⟨hafter, m, heq⟩ := h d n hd
  refine ⟨hafter, m, ?_⟩
  simp only [heq]

/-- What follows an action may count on its answer being one that the action gives. -/
theorem bind {act : Deployment → α × Deployment} (h : IsTransparent config works act)
    (next : α → Deployment → β × Deployment)
    (hnext : ∀ d, IsVouched config works d → IsTransparent config works (next (act d).1)) :
    IsTransparent config works fun d => next (act d).1 (act d).2 := by
  intro d n hd
  obtain ⟨hbetween, m, heq⟩ := h d n hd
  simp only [heq]
  exact hnext d hd _ m hbetween

end IsTransparent

/-! ## The collaborators -/

theorem IsVouched.frame {d : Deployment} (h : IsVouched config works d) (store : Store)
    (signed extracted drawn revokeSweeps deleteSweeps : Nat) :
    IsVouched config works
      { d with store, signed, extracted, drawn, revokeSweeps, deleteSweeps } :=
  ⟨h.config_eq, h.signerWorks_eq, h.entries⟩

theorem unlessRefused_isTransparent (operation : StoreOperation)
    {act : Deployment → Except DomainError α × Deployment} (h : IsTransparent config works act) :
    IsTransparent config works (·.unlessRefused operation act) := by
  intro d n hd
  unfold unlessRefused
  by_cases hrefused : d.refused.contains operation = true
  · simp only [withoutCache, hrefused, if_true]
    exact ⟨hd, n, rfl⟩
  · simp only [withoutCache, hrefused, Bool.false_eq_true, if_false]
    exact h d n hd

theorem insert_isTransparent (context : SecurityContext) :
    IsTransparent config works (·.insert context) := by
  intro d n h
  exact unlessRefused_isTransparent .insert (fun _ n h => ⟨h.frame .., n, rfl⟩) d n h

theorem storeRevoke_isTransparent (token : RefreshToken) :
    IsTransparent config works (·.storeRevoke token) :=
  unlessRefused_isTransparent .revoke fun _ n h => ⟨h.frame .., n, rfl⟩

theorem prolong_isTransparent (token : RefreshToken) :
    IsTransparent config works (·.prolong token) := by
  intro d n h
  exact unlessRefused_isTransparent .prolong (fun _ n h => ⟨h.frame .., n, rfl⟩) d n h

theorem revokeExpired_isTransparent : IsTransparent config works revokeExpired := by
  intro d n h
  exact unlessRefused_isTransparent .revokeExpired (fun _ n h => ⟨h.frame .., n, rfl⟩)
    { d with revokeSweeps := d.revokeSweeps + 1 } n (h.frame ..)

theorem deleteExpiredFor_isTransparent (span : Duration) :
    IsTransparent config works (·.deleteExpiredFor span) := by
  intro d n h
  exact unlessRefused_isTransparent .deleteExpired (fun _ n h => ⟨h.frame .., n, rfl⟩)
    { d with deleteSweeps := d.deleteSweeps + 1 } n (h.frame ..)

theorem reap_isTransparent (grace : Duration) : IsTransparent config works (·.reap grace) :=
  revokeExpired_isTransparent.bind
    (fun revoked d =>
      (ReapReport.ofSweeps revoked (d.deleteExpiredFor grace).1, (d.deleteExpiredFor grace).2))
    fun d _ => (deleteExpiredFor_isTransparent grace).map (ReapReport.ofSweeps d.revokeExpired.1)

theorem readClock_isTransparent : IsTransparent config works fun d => (d.clock.now, d) :=
  fun _ n h => ⟨h, n, rfl⟩

theorem sign_isTransparent (claims : Claims) (secret : TokenSecret) :
    IsTransparent config works (·.sign claims secret) :=
  fun _ n h => ⟨h.frame .., n, rfl⟩

theorem extract_isTransparent (token : AccessToken) (secret : TokenSecret) :
    IsTransparent config works (·.extract token secret) :=
  fun _ n h => ⟨h.frame .., n + 1, rfl⟩

/-- Storing an entry that is vouched for makes no difference to what ignores the answer. -/
theorem remember_isTransparent {token : AccessToken} {context : SecurityContext}
    {expiresAt : Instant}
    (hentry : ∀ life, VouchedFor config works token ⟨context, expiresAt, life⟩)
    (result : α) :
    IsTransparent config works fun d => (result, (d.remember token context expiresAt).2) :=
  fun _ n h => ⟨⟨h.config_eq, h.signerWorks_eq, h.entries.put hentry⟩, n, rfl⟩

end Deployment

/-! ## Conversations -/

namespace Script

open Deployment

variable {config : ServiceConfig} {works : Bool}

/-- A script whose conversation with a deployment is transparent. -/
def IsTransparent (config : ServiceConfig) (works : Bool) (script : Script α) : Prop :=
  Deployment.IsTransparent config works (script.run collaborators)

theorem done_isTransparent (result : α) : IsTransparent config works (.done result) :=
  .pure result

theorem readClock_isTransparent {next : Instant → Script α}
    (h : ∀ now : Instant, now.IsWhole → IsTransparent config works (next now)) :
    IsTransparent config works (.readClock next) :=
  Deployment.readClock_isTransparent.bind (fun now => (next now).run collaborators)
    fun d _ => h d.clock.now d.clock.isWhole

theorem sign_isTransparent {claims : Claims} {secret : TokenSecret}
    {next : Except TokenError AccessToken → Script α}
    (hsigned : works = true → IsTransparent config works (next (.ok (Jwt.sign claims secret))))
    (hfailed : ∀ cause, IsTransparent config works (next (.error cause))) :
    IsTransparent config works (.sign claims secret next) := by
  refine (Deployment.sign_isTransparent claims secret).bind
    (fun answer => (next answer).run collaborators) fun d hd => ?_
  unfold Deployment.sign
  split
  next hworks => exact hsigned (hd.signerWorks_eq.symm.trans hworks)
  next => exact hfailed _

theorem extract_isTransparent {token : AccessToken} {secret : TokenSecret}
    {next : Except TokenError Claims → Script α}
    (hextracted : ∀ claims, works = true → Jwt.extract token secret = .ok claims →
      IsTransparent config works (next (.ok claims)))
    (hfailed : ∀ cause, IsTransparent config works (next (.error cause))) :
    IsTransparent config works (.extract token secret next) := by
  refine (Deployment.extract_isTransparent token secret).bind
    (fun answer => (next answer).run collaborators) fun d hd => ?_
  unfold Deployment.extract
  split
  next hworks =>
    cases hextract : Jwt.extract token secret with
    | ok claims => exact hextracted claims (hd.signerWorks_eq.symm.trans hworks) hextract
    | error cause => exact hfailed cause
  next => exact hfailed _

theorem remember_isTransparent {token : AccessToken} {context : SecurityContext}
    {expiresAt : Instant}
    (hentry : ∀ life, VouchedFor config works token ⟨context, expiresAt, life⟩)
    (result : α) :
    IsTransparent config works (.remember token context expiresAt fun _ => .done result) :=
  Deployment.remember_isTransparent hentry result

theorem insertAndRemember_isTransparent {token : AccessToken} {context : SecurityContext}
    {expiresAt : Instant}
    (hentry : ∀ life, VouchedFor config works token ⟨context, expiresAt, life⟩)
    (result : Except DomainError Record → α) :
    IsTransparent config works
      (.insertAndRemember context token expiresAt fun inserted _ => .done (result inserted)) :=
  (insert_isTransparent context).bind
    (fun inserted d => (result inserted, (d.remember token context expiresAt).2))
    fun _ _ => Deployment.remember_isTransparent hentry _

theorem revoke_isTransparent {token : RefreshToken} {next : Except DomainError Record → Script α}
    (h : ∀ answer, IsTransparent config works (next answer)) :
    IsTransparent config works (.revoke token next) :=
  (storeRevoke_isTransparent token).bind (fun answer => (next answer).run collaborators)
    fun _ _ => h _

end Script

/-! ## The service -/

namespace TokenService

open Script

variable {config : ServiceConfig} {works : Bool}

/-- What a login stores is vouched for: its token is extracted as its claims on whole seconds. -/
theorem vouchedFor_sign {context : SecurityContext} {issuedAt : Instant} {claims : Claims}
    (hclaims : Claims.forContext config.issuer context issuedAt config.accessLifetime = .ok claims)
    (life : Duration) :
    VouchedFor config true (Jwt.sign claims config.secret) ⟨context, claims.expiresAt, life⟩ :=
  ⟨rfl, _, Jwt.extract_sign_eq claims config.secret,
    fun _ hwhole hnow => Claims.forContext_validate hclaims hwhole hnow⟩

/-- What a verification stores is vouched for: it was just found to hold. -/
theorem vouchedFor_verified {token : AccessToken} {claims : Claims} {now : Instant}
    {context : SecurityContext} (hextract : Jwt.extract token config.secret = .ok claims)
    (hvalid : claims.validate now = .valid context) (life : Duration) :
    VouchedFor config true token ⟨context, claims.expiresAt, life⟩ :=
  ⟨rfl, claims, hextract, fun _ _ hnow => Claims.validate_of_le hvalid hnow⟩

theorem generate_isTransparent (context : SecurityContext) :
    IsTransparent config works (generate config context) := by
  refine readClock_isTransparent fun issuedAt _ => ?_
  split
  next => exact done_isTransparent _
  next claims hclaims =>
    refine sign_isTransparent ?_ fun _ => done_isTransparent _
    rintro rfl
    exact insertAndRemember_isTransparent (vouchedFor_sign hclaims) _

theorem verifyAfresh_isTransparent (token : AccessToken) :
    IsTransparent config works (verifyAfresh config token) := by
  refine extract_isTransparent (fun claims hworks hextract => ?_) fun _ => done_isTransparent _
  subst hworks
  refine readClock_isTransparent fun now _ => ?_
  split
  next => exact done_isTransparent _
  next context hvalid =>
    exact remember_isTransparent (vouchedFor_verified hextract hvalid) _

theorem redeem_isTransparent (record : Record) (revokedAt : Instant) :
    IsTransparent config works (redeem config record revokedAt) := by
  unfold redeem
  split
  next => exact done_isTransparent _
  next => exact generate_isTransparent record.context

theorem refresh_isTransparent (token : RefreshToken) :
    IsTransparent config works (refresh config token) := by
  refine revoke_isTransparent fun answer => ?_
  cases answer with
  | error failure => exact done_isTransparent _
  | ok record =>
      cases hrevoked : record.revokedAt with
      | some revokedAt =>
          simp only [hrevoked]
          exact redeem_isTransparent record revokedAt
      | none =>
          simp only [hrevoked]
          exact readClock_isTransparent fun now _ => redeem_isTransparent record now

theorem revoke_isTransparent (token : RefreshToken) :
    IsTransparent config works (revoke token) := by
  refine Script.revoke_isTransparent fun answer => ?_
  cases answer with
  | error failure => exact done_isTransparent _
  | ok record => exact done_isTransparent _

/-- Verifying a token whose entry is vouched for gives the identity of the entry. -/
theorem verifyAfresh_run_of_vouchedFor {token : AccessToken} {entry : CacheEntry} {d : Deployment}
    (hworks : d.signerWorks = works) (hentry : VouchedFor config works token entry)
    (hlive : d.clock.now ≤ entry.expiresAt) (n : Nat) :
    (verifyAfresh config token).run Deployment.collaborators (d.withoutCache n) =
      (.ok entry.context, d.withoutCache (n + 1)) := by
  obtain ⟨rfl, claims, hextract, hvalid⟩ := hentry
  have hextracted : (d.withoutCache n).extract token config.secret =
      (.ok claims, d.withoutCache (n + 1)) := by
    simp only [Deployment.extract, Deployment.withoutCache, hworks, if_true, hextract]
  have hnow := hvalid d.clock.now d.clock.isWhole hlive
  simp only [verifyAfresh, run, Deployment.collaborators, hextracted]
  simp only [Deployment.withoutCache, hnow, run, Deployment.remember, VerificationCache.put]

theorem verify_run_hit {token : AccessToken} {context : SecurityContext} {d : Deployment}
    (h : (d.consult token).1 = .ok (some context)) :
    (verify config token).run Deployment.collaborators d = (.ok context, (d.consult token).2) := by
  simp only [verify, run, Deployment.collaborators, h]

/-- A hit answers what the missing cache has verified afresh; without a hit both verify afresh. -/
theorem verify_isTransparent (token : AccessToken) :
    IsTransparent config works (verify config token) := by
  intro d n hd
  have hconsulted : Deployment.IsVouched config works (d.consult token).2 :=
    ⟨hd.config_eq, hd.signerWorks_eq, hd.entries.get d.clock.now token⟩
  have hcacheless : (verify config token).run Deployment.collaborators (d.withoutCache n) =
      (verifyAfresh config token).run Deployment.collaborators
        ((d.consult token).2.withoutCache n) :=
    verify_run_unknown fun _ hanswer => nomatch hanswer
  rw [hcacheless]
  -- a hit saves the extraction, so that the numbers of extractions come apart here
  by_cases hhit : ∃ context, (d.consult token).1 = .ok (some context)
  · obtain ⟨context, hanswer⟩ := hhit
    obtain ⟨entry, hentry, hlive, rfl⟩ := hd.entries.answer hanswer
    rw [verify_run_hit hanswer]
    exact ⟨hconsulted, n + 1,
      verifyAfresh_run_of_vouchedFor hconsulted.signerWorks_eq hentry hlive n⟩
  · rw [verify_run_unknown fun context hanswer => hhit ⟨context, hanswer⟩]
    exact verifyAfresh_isTransparent token _ n hconsulted

end TokenService

/-! ## Runs -/

namespace Deployment

/-- Whether a command leaves it to the service to read and write the cache, and the service to its
configuration. -/
def Command.isIndirect : Command → Bool
  | .remember .. | .consult _ | .forget _ | .rotate _ => false
  | _ => true

variable {config : ServiceConfig} {works : Bool}

theorem move_isTransparent (m : ManualClock.Move) :
    IsTransparent config works (·.reply (.move m)) := by
  intro d n h
  unfold reply
  cases hmove : d.clock.move? m with
  | some clock =>
      simp only [withoutCache, hmove]
      exact ⟨⟨h.config_eq, h.signerWorks_eq, h.entries⟩, n, rfl⟩
  | none =>
      simp only [withoutCache, hmove]
      exact ⟨h, n, rfl⟩

/-- The configuration that a service call reads is the one that is vouched for. -/
theorem IsTransparent.withConfig (script : ServiceConfig → Script α)
    (h : (script config).IsTransparent config works) :
    IsTransparent config works fun d => (script d.config).run collaborators d := by
  intro d n hd
  have hsame : (d.withoutCache n).config = config := hd.config_eq
  simp only [hsame, hd.config_eq]
  exact h d n hd

theorem race_isTransparent (token : RefreshToken) (times : Nat) :
    IsTransparent config works (·.race token times) := by
  induction times with
  | zero => exact .pure []
  | succ times ih =>
      exact (IsTransparent.withConfig (TokenService.refresh · token)
        (TokenService.refresh_isTransparent token)).bind
        (fun result d => (result :: (d.race token times).1, (d.race token times).2))
        fun _ _ => ih.map _

theorem reply_isTransparent {command : Command} (h : command.isIndirect = true) :
    IsTransparent config works (·.reply command) := by
  cases command with
  | move m => exact move_isTransparent m
  | generate context =>
      exact (IsTransparent.withConfig (TokenService.generate · context)
        (TokenService.generate_isTransparent context)).map Reply.pair
  | verify token =>
      exact (IsTransparent.withConfig (TokenService.verify · token)
        (TokenService.verify_isTransparent token)).map Reply.identity
  | refresh token =>
      exact (IsTransparent.withConfig (TokenService.refresh · token)
        (TokenService.refresh_isTransparent token)).map Reply.pair
  | revoke token => exact (TokenService.revoke_isTransparent token).map Reply.token
  | race token times => exact (race_isTransparent token times).map Reply.pairs
  | insert context => exact (insert_isTransparent context).map Reply.record
  | storeRevoke token => exact (storeRevoke_isTransparent token).map Reply.record
  | find token => exact fun d n hd => ⟨hd, n, rfl⟩
  | prolong token => exact (prolong_isTransparent token).map Reply.token
  | revokeExpired => exact revokeExpired_isTransparent.map Reply.count
  | deleteExpired span => exact (deleteExpiredFor_isTransparent span).map Reply.count
  | reap grace => exact (reap_isTransparent grace).map Reply.reaped
  | remember => cases h
  | consult => cases h
  | forget => cases h
  | rotate => cases h

theorem perform_isTransparent {command : Command} (h : command.isIndirect = true) :
    IsTransparent config works (·.perform command) :=
  (reply_isTransparent h).bind (fun r d => (r, { d with cache := d.cache.settle }))
    fun _ _ _ n hd => ⟨⟨hd.config_eq, hd.signerWorks_eq, hd.entries.settle fun _ _ _ => id⟩, n, rfl⟩

theorem performAll_isTransparent {commands : List Command}
    (h : ∀ command ∈ commands, command.isIndirect = true) :
    IsTransparent config works (·.performAll commands) := by
  induction commands with
  | nil => exact .pure []
  | cons command rest ih =>
      have hrest := ih fun other hother => h other (List.mem_cons_of_mem _ hother)
      exact (perform_isTransparent (h command List.mem_cons_self)).bind
        (fun r d => (r :: (d.performAll rest).1, (d.performAll rest).2)) fun _ _ => hrest.map _

/-- Every run of the service is answered alike with a cache that starts empty and without one, as
long as only the service uses the cache. This holds whatever the cache drops, whenever it does so,
and whichever of its calls fail. -/
theorem replies_do_not_depend_on_cache (d : Deployment) (budget : Nat) (timeToLive : Duration)
    (faults : List CacheFault) (commands : List Command)
    (h : ∀ command ∈ commands, command.isIndirect = true) :
    ({ d with cache := .unreliable faults (.empty budget timeToLive) }.performAll commands).1 =
        ({ d with cache := .off }.performAll commands).1 ∧
      ({ d with cache := .lru (.empty budget timeToLive) }.performAll commands).1 =
        ({ d with cache := .off }.performAll commands).1 := by
  have hsame : ∀ cache : VerificationCache,
      cache.AllEntries (VouchedFor d.config d.signerWorks) →
        ({ d with cache }.performAll commands).1 =
          ({ d with cache := .off }.performAll commands).1 := by
    intro cache hcache
    obtain ⟨-, m, heq⟩ := performAll_isTransparent h { d with cache } d.extracted
      ⟨rfl, rfl, hcache⟩
    exact (congrArg Prod.fst heq).symm
  have hempty : (LruCache.empty budget timeToLive).AllEntries
      (VouchedFor d.config d.signerWorks) := LruCache.allEntries_empty budget timeToLive
  exact ⟨hsame (.unreliable faults (.empty budget timeToLive)) hempty,
    hsame (.lru (.empty budget timeToLive)) hempty⟩

/-- A login whose token is verified twice, the second time past its expiry, while the cache first
fails and then forgets it. -/
theorem replies_to_login_do_not_depend_on_cache :
    let config : ServiceConfig := ⟨"issuer", ⟨[115]⟩, .ofSeconds 60⟩
    let d : Deployment :=
      { config, refreshLifetime := .ofSeconds 600, clock := .startingAt .epoch }
    let holder : SecurityContext := ⟨⟨7, by decide, by decide⟩, .admin⟩
    let token := Jwt.sign ⟨"issuer", "7", "7", "admin", .epoch, ⟨60000000000, by decide, by decide⟩⟩
      config.secret
    let faults : List CacheFault :=
      [{ failure := some (.cache "unavailable") }, { dropped := [token] }]
    let commands : List Command := [.generate holder, .verify token,
      .move (.advance (.ofSeconds 61)), .verify token, .refresh (drawnToken 0)]
    (∀ command ∈ commands, command.isIndirect = true) ∧
      ({ d with cache := .unreliable faults (.empty 1000 (.ofSeconds 60)) }.performAll commands).1 =
        ({ d with cache := .off }.performAll commands).1 ∧
      ({ d with cache := .lru (.empty 1000 (.ofSeconds 60)) }.performAll commands).1 =
        ({ d with cache := .off }.performAll commands).1 := by
  intro config d holder token faults commands
  have hcommands : ∀ command ∈ commands, command.isIndirect = true := by
    simp [commands, Command.isIndirect]
  exact ⟨hcommands, replies_do_not_depend_on_cache d 1000 (.ofSeconds 60) faults commands hcommands⟩

end Deployment

end SessionTokens
