import SessionTokens.Proofs.Service.Replies

/-! # An access token is good until it expires

Once a call was answered with a pair, its access token alone decides how it is verified: as the
context that the pair was made for at every reading of the clock through its expiry, and as expired,
and nothing worse, at every later one. What has become of refresh tokens has no say in it, nor has
the cache, how often the token was verified before, or which way the clock was moved.
-/

namespace SessionTokens

open Time Deployment

namespace TokenPairOver

/-- What verifying the access token of a pair for a context should come to. -/
def verdict (pair : TokenPair) (context : SecurityContext) (now : Instant) :
    Except DomainError SecurityContext :=
  if now ≤ pair.accessExpiresAt then .ok context else .error (.invalidClaims ⟨.expired, []⟩)

theorem IsMadeFor.verdict_eq {config : ServiceConfig} {context : SecurityContext}
    {pair : TokenPair} (h : pair.IsMadeFor config context) (clock : ManualClock) :
    TokenService.verdict config pair.accessToken clock.now = pair.verdict context clock.now := by
  obtain ⟨issuedAt, claims, hclaims, htoken, hexpiry⟩ := h
  have hextract : Jwt.extract pair.accessToken config.secret =
      .ok (claims.mapTime Instant.floorSecond) := by
    rw [htoken, Jwt.extract_sign_eq]
  rw [verdict, hexpiry]
  split
  next hnow =>
    exact TokenService.verdict_of_valid hextract
      (Claims.forContext_validate hclaims clock.isWhole hnow)
  next hnow =>
    have hexpired := Claims.forContext_validate_expired hclaims (Int.not_le.mp hnow)
    simp only [TokenService.verdict, hextract, hexpired]

end TokenPairOver

theorem TokenService.verify_run_withoutCache {config : ServiceConfig} {d : Deployment}
    (hworks : d.signerWorks = true) (token : AccessToken) (n : Nat) :
    ((verify config token).run collaborators (d.withoutCache n)).1 =
      verdict config token d.clock.now := by
  have hextracted : (d.withoutCache n).extract token config.secret =
      (Jwt.extract token config.secret, d.withoutCache (n + 1)) := by
    simp only [Deployment.extract, Deployment.withoutCache, hworks, if_true]
  have hconsulted : ((d.withoutCache n).consult token).2 = d.withoutCache n := rfl
  have hmiss : ∀ context, ((d.withoutCache n).consult token).1 ≠ .ok (some context) := by
    intro context hanswer
    cases hanswer
  rw [verify_run_unknown hmiss]
  simp only [hconsulted, verifyAfresh, Script.run, collaborators, hextracted, verdict]
  cases Jwt.extract token config.secret with
  | error cause => rfl
  | ok claims =>
      simp only [Script.run]
      have hnow : (d.withoutCache (n + 1)).clock.now = d.clock.now := rfl
      rw [hnow]
      cases claims.validate d.clock.now with
      | invalid violations => rfl
      | valid context => rfl

/-- Where every entry of the cache is vouched for, a verification gives the verdict. -/
theorem Deployment.IsVouched.verify_eq {config : ServiceConfig} {d : Deployment}
    (h : IsVouched config true d) (token : AccessToken) :
    (d.verify token).1 = TokenService.verdict config token d.clock.now := by
  obtain ⟨-, m, heq⟩ := TokenService.verify_isTransparent token d d.extracted h
  rw [verify, h.config_eq, ← TokenService.verify_run_withoutCache h.signerWorks_eq token d.extracted,
    heq]

/-- A cache that observes expiries and holds no entries. -/
def VerificationCache.HoldsNothing (cache : VerificationCache) : Prop :=
  cache.AllEntries fun _ _ => False

namespace Interleaving

/-! ## The invariant -/

/-- What a call has kept of its steps: every one that took a record is among them, and the reply
will fit them. -/
structure HasKept (s : Interleaving) (config : ServiceConfig) (index : Nat) (call : ServiceCall)
    (kept : List CallStep) : Prop where
  made : ∀ step ∈ kept, step ∈ s.steps ∧ step.call = index
  taken : ∀ step ∈ s.steps, step.call = index →
    ∀ token record, step.Takes token record → step ∈ kept
  script : Replies config index call.request
    (fun kept reply => call.request.Fits config kept reply) kept call.script

/-- What is true at every turn: the cache is vouched for, and the replies fit what was done. -/
structure RepliesFit (s : Interleaving) (config : ServiceConfig) : Prop where
  vouched : IsVouched config true s.deployment
  known : ∀ step ∈ s.steps, step.call < s.calls.length
  calls : ∀ index call, s.calls[index]? = some call → ∃ kept, s.HasKept config index call kept

variable {s : Interleaving} {config : ServiceConfig} {index : Nat} {call : ServiceCall}

theorem start_repliesFit {d : Deployment} (hworks : d.signerWorks = true)
    (hcache : d.cache.HoldsNothing) : RepliesFit { deployment := d } d.config where
  vouched := ⟨rfl, hworks, hcache.mono fun _ _ hnothing => hnothing.elim⟩
  known step hmem := by cases hmem
  calls index call hcall := by simp at hcall

theorem RepliesFit.beside (h : s.RepliesFit config) {d : Deployment}
    (hd : IsVouched config true d) : RepliesFit { s with deployment := d } config where
  vouched := hd
  known := h.known
  calls index call hcall := by
    obtain ⟨kept, hkept⟩ := h.calls index call hcall
    exact ⟨kept, hkept.made, hkept.taken, hkept.script⟩

theorem RepliesFit.arrive (h : s.RepliesFit config) (request : Request) :
    (s.take (.arrive request)).RepliesFit config where
  vouched := h.vouched
  known step hmem := by
    simp only [take, List.length_append, List.length_singleton]
    exact Nat.lt_succ_of_lt (h.known step hmem)
  calls := by
    refine forall_calls_arrive ?_ fun other found hfound => ?_
    · -- every step belongs to a call that had arrived before it
      refine ⟨[], List.forall_mem_nil _, fun step hmem heq => ?_, ?_⟩
      · exact absurd (h.known step hmem) (by rw [heq]; exact Nat.lt_irrefl _)
      · rw [h.vouched.config_eq]
        exact request.script_replies config _
    · obtain ⟨kept, hkept⟩ := h.calls other found hfound
      exact ⟨kept, hkept.made, hkept.taken, hkept.script⟩

/-- The step of a call is none of another call. -/
theorem HasKept.advance {other : Nat} {stayed : ServiceCall} {kept : List CallStep}
    (h : s.HasKept config other stayed kept) (hne : other ≠ index) (call : ServiceCall)
    (script : Script Reply) (d : Deployment) :
    (s.advance index call script d).HasKept config other stayed kept where
  made step hmem := ⟨List.mem_cons_of_mem _ (h.made step hmem).1, (h.made step hmem).2⟩
  taken step hmem hstep := by
    rcases List.mem_cons.mp hmem with rfl | hold
    · exact absurd hstep.symm hne
    · exact h.taken step hold hstep
  script := h.script

/-- A step of a call is kept, or it may be passed over. -/
theorem HasKept.proceed {kept next : List CallStep} (h : s.HasKept config index call kept)
    {script : Script Reply} {d : Deployment}
    (hrecords : Records config index call.request kept s.deployment d next)
    (hscript : Replies config index call.request
      (fun kept reply => call.request.Fits config kept reply) next script) :
    (s.advance index call script d).HasKept config index { call with script } next := by
  have hkeeps : kept ⊆ next := by
    rcases hrecords.keeps with heq | heq
    · rw [heq]
      exact List.Subset.refl kept
    · rw [heq]
      exact List.subset_cons_self _ kept
  refine ⟨fun step hmem => ?_, fun step hmem hstep token record htakes => ?_, hscript⟩
  · rcases hrecords.keeps with heq | heq
    · rw [heq] at hmem
      exact ⟨List.mem_cons_of_mem _ (h.made step hmem).1, (h.made step hmem).2⟩
    · rw [heq] at hmem
      rcases List.mem_cons.mp hmem with rfl | hold
      · exact ⟨List.mem_cons_self, rfl⟩
      · exact ⟨List.mem_cons_of_mem _ (h.made step hold).1, (h.made step hold).2⟩
  · rcases List.mem_cons.mp hmem with rfl | hold
    · exact hrecords.takes token record htakes
    · exact hkeeps (h.taken step hold hstep token record htakes)

theorem RepliesFit.proceed (h : s.RepliesFit config) (index : Nat) (cacheFirst : Bool)
    (reading : Instant) : (s.proceed index cacheFirst reading).RepliesFit config := by
  cases hcall : s.calls[index]? with
  | none =>
      simp only [Interleaving.proceed, hcall]
      exact h
  | some call =>
      obtain ⟨kept, hkept⟩ := h.calls index call hcall
      obtain ⟨next, hrecords, hscript⟩ := hkept.script.step
        (fun _ _ hd => .skip_of_store_eq hd rfl) h.vouched cacheFirst reading
      simp only [Interleaving.proceed, hcall]
      refine ⟨hrecords.vouched, fun step hmem => ?_,
        forall_calls_advance hcall ⟨next, hkept.proceed hrecords hscript⟩ ?_⟩
      · simp only [advance, List.length_set]
        rcases List.mem_cons.mp hmem with rfl | hold
        · exact (List.getElem?_eq_some_iff.mp hcall).1
        · exact h.known step hold
      · intro other found hne hfound
        obtain ⟨others, hothers⟩ := h.calls other found hfound
        exact ⟨others, hothers.advance hne ..⟩

theorem RepliesFit.take (h : s.RepliesFit config) (turn : Turn) :
    (s.take turn).RepliesFit config := by
  cases turn with
  | arrive request => exact h.arrive request
  | proceed index cacheFirst reading => exact h.proceed index cacheFirst reading
  | moveClock m =>
      exact h.beside ⟨h.vouched.config_eq, h.vouched.signerWorks_eq, h.vouched.entries⟩
  | prolong token reading =>
      exact h.beside (unlessRefused_elim (IsVouched config true) h.vouched (h.vouched.frame ..))
  | revokeExpired reading =>
      exact h.beside (unlessRefused_elim (IsVouched config true) (h.vouched.frame ..)
        (h.vouched.frame ..))
  | deleteExpired span reading =>
      exact h.beside (unlessRefused_elim (IsVouched config true) (h.vouched.frame ..)
        (h.vouched.frame ..))

theorem RepliesFit.run (h : s.RepliesFit config) (turns : List Turn) :
    (s.run turns).RepliesFit config := by
  induction turns generalizing s with
  | nil => exact h
  | cons turn turns ih => exact ih (h.take turn)

/-! ## Every interleaving -/

/-- A call acts for the context that it logs in, or for the one of a record that it takes to
refresh. -/
def ActsFor (s : Interleaving) (index : Nat) (context : SecurityContext) : Prop :=
  ∃ call, s.calls[index]? = some call ∧
    (call.request = .login context ∨
      ∃ token, call.request = .refresh token ∧ ∃ step ∈ s.steps, step.call = index ∧
        ∃ record, step.Takes token record ∧ record.context = context)

/-- The access token of a pair is good for a context exactly until it expires. -/
structure IsGoodUntilExpiry (s : Interleaving) (pair : TokenPair) (context : SecurityContext) :
    Prop where
  /-- So it is verified whatever the clock is set to. -/
  verified : ∀ clock : ManualClock,
    ({ s.deployment with clock }.verify pair.accessToken).1 = pair.verdict context clock.now
  /-- So it was verified by all calls so far, each at a reading of the clock in one of its steps. -/
  replied : ∀ index call reply, s.calls[index]? = some call →
    call.request = .verify pair.accessToken → s.reply? index = some reply →
      ∃ step ∈ s.steps, step.call = index ∧
        reply = .identity (pair.verdict context step.before.clock.now)

theorem RepliesFit.fits (h : s.RepliesFit config) {reply : Reply}
    (hcall : s.calls[index]? = some call) (hreply : s.reply? index = some reply) :
    ∃ kept, s.HasKept config index call kept ∧ call.request.Fits config kept reply := by
  obtain ⟨kept, hkept⟩ := h.calls index call hcall
  obtain ⟨_, hfound, hdone⟩ := reply?_eq_some_iff.mp hreply
  rw [hcall] at hfound
  cases hfound
  have hscript := hkept.script
  rw [hdone] at hscript
  exact ⟨kept, hkept, hscript.ends_of_done⟩

/-- Whoever is answered with a pair acts for somebody, for whom the pair is made. -/
theorem RepliesFit.isMadeFor (h : s.RepliesFit config) {pair : TokenPair}
    (hreply : s.reply? index = some (.pair (.ok pair))) :
    (∃ context, s.ActsFor index context) ∧
      ∀ context, s.ActsFor index context → pair.IsMadeFor config context := by
  obtain ⟨call, hcall, -⟩ := reply?_eq_some_iff.mp hreply
  obtain ⟨kept, hkept, hfits⟩ := h.fits hcall hreply
  cases hrequest : call.request with
  | login context =>
      rw [hrequest] at hfits
      refine ⟨⟨context, call, hcall, .inl hrequest⟩, ?_⟩
      rintro other ⟨_, hfound, hacts⟩
      rw [hcall] at hfound
      cases hfound
      rcases hacts with hlogin | ⟨token, hrefresh, -⟩
      · cases hrequest.symm.trans hlogin
        exact hfits pair rfl
      · cases hrequest.symm.trans hrefresh
  | verify token =>
      rw [hrequest] at hfits
      obtain ⟨step, -, heq⟩ := hfits
      cases heq
  | refresh token =>
      rw [hrequest] at hfits
      obtain ⟨⟨step, hmem, record, htakes⟩, hmade⟩ := hfits pair rfl
      obtain ⟨hstep, hindex⟩ := hkept.made step hmem
      refine ⟨⟨record.context, call, hcall,
        .inr ⟨token, hrequest, step, hstep, hindex, record, htakes, rfl⟩⟩, ?_⟩
      rintro other ⟨_, hfound, hacts⟩
      rw [hcall] at hfound
      cases hfound
      rcases hacts with hlogin | ⟨presented, hrefresh, taking, htaking, hown, taken, htaken, rfl⟩
      · cases hrequest.symm.trans hlogin
      · cases hrequest.symm.trans hrefresh
        exact hmade taking (hkept.taken taking htaking hown _ taken htaken) taken htaken
  | revoke token =>
      rw [hrequest] at hfits
      exact absurd rfl (hfits pair)

theorem RepliesFit.isGoodUntilExpiry (h : s.RepliesFit config) {pair : TokenPair}
    {context : SecurityContext} (hmade : pair.IsMadeFor config context) :
    s.IsGoodUntilExpiry pair context where
  verified clock := by
    have hvouched : IsVouched config true { s.deployment with clock } :=
      ⟨h.vouched.config_eq, h.vouched.signerWorks_eq, h.vouched.entries⟩
    rw [hvouched.verify_eq, hmade.verdict_eq clock]
  replied index call reply hcall hrequest hreply := by
    obtain ⟨kept, hkept, hfits⟩ := h.fits hcall hreply
    rw [hrequest] at hfits
    obtain ⟨step, hmem, rfl⟩ := hfits
    obtain ⟨hstep, hindex⟩ := hkept.made step hmem
    exact ⟨step, hstep, hindex, by rw [hmade.verdict_eq step.before.clock]⟩

/-- However calls of the service are interleaved with each other, with prolongations, sweeps and
movements of the clock, every pair that one of them is answered with has an access token that is
good for its holder exactly until it expires. The signer works, and the cache, if there is one,
starts without entries. -/
theorem run_pair_isGoodUntilExpiry (d : Deployment) (hworks : d.signerWorks = true)
    (hcache : d.cache.HoldsNothing) (turns : List Turn) (index : Nat) (pair : TokenPair)
    (hreply : (Interleaving.run { deployment := d } turns).reply? index = some (.pair (.ok pair))) :
    (∃ context, (Interleaving.run { deployment := d } turns).ActsFor index context) ∧
      ∀ context, (Interleaving.run { deployment := d } turns).ActsFor index context →
        (Interleaving.run { deployment := d } turns).IsGoodUntilExpiry pair context := by
  have h := (start_repliesFit hworks hcache).run turns
  obtain ⟨hacts, hmade⟩ := h.isMadeFor hreply
  exact ⟨hacts, fun context hcontext => h.isGoodUntilExpiry (hmade context hcontext)⟩

/-- The pair of a login stays good for a minute, although the refresh token is swept away. -/
theorem login_isGoodUntilExpiry :
    let config : ServiceConfig := ⟨"issuer", ⟨[115]⟩, .ofSeconds 60⟩
    let expiresAt : Instant := ⟨60000000000, by decide, by decide⟩
    let holder : SecurityContext := ⟨⟨7, by decide, by decide⟩, .admin⟩
    let name := holder.user.display
    let token := Jwt.sign ⟨"issuer", name, name, holder.role.name, .epoch, expiresAt⟩ config.secret
    let ids : Nat → RefreshToken := fun n => ⟨String.ofList (List.replicate n 'a')⟩
    let cache : VerificationCache := .lru (.empty 1000 (.ofSeconds 60))
    let d : Deployment :=
      { config, refreshLifetime := .ofSeconds 600, clock := .startingAt .epoch, cache, ids }
    let pair : TokenPair := ⟨ids 0, token, expiresAt, ⟨600000000000, by decide, by decide⟩⟩
    let turns : List Turn := [.arrive (.login holder), .proceed 0 false .epoch,
      .proceed 0 false .epoch, .proceed 0 true .epoch, .proceed 0 false .epoch,
      .moveClock (.advance (.ofSeconds 61)), .revokeExpired .latest, .deleteExpired .zero .latest]
    d.signerWorks = true ∧ d.cache.HoldsNothing ∧
      (Interleaving.run { deployment := d } turns).reply? 0 = some (.pair (.ok pair)) ∧
      (∃ context, (Interleaving.run { deployment := d } turns).ActsFor 0 context) ∧
      ∀ context, (Interleaving.run { deployment := d } turns).ActsFor 0 context →
        (Interleaving.run { deployment := d } turns).IsGoodUntilExpiry pair context := by
  intro config expiresAt holder name token ids cache d pair turns
  have hcache : d.cache.HoldsNothing := LruCache.allEntries_empty 1000 (.ofSeconds 60)
  have hreply : (Interleaving.run { deployment := d } turns).reply? 0 = some (.pair (.ok pair)) :=
    rfl
  exact ⟨rfl, hcache, hreply, run_pair_isGoodUntilExpiry d rfl hcache turns 0 pair hreply⟩

end Interleaving

end SessionTokens
