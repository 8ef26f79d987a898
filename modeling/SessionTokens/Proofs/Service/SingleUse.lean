import SessionTokens.Proofs.Service.Calls
import SessionTokens.Proofs.Service.Issuing

/-! # A refresh token is used once

However calls are interleaved, at most one of those that present a refresh token revokes it, and at
most one pair is made for it. All other calls fail without a change to anything. The invariant says
for every call on the token that it has changed nothing yet and has either not begun or failed,
except for at most one winner: once there is one, the token is spent, and what the winner may still
issue and has issued is bounded together.
-/

namespace SessionTokens

open Time

namespace CallStep

theorem Takes.revokes {step : CallStep} {token : RefreshToken} {record : Record}
    (h : step.Takes token record) : step.revokes token = true := by
  obtain ⟨hbefore, hactive, hafter⟩ := h
  rw [CallStep.revokes, hbefore, hafter, Option.any_some, Option.any_some, hactive]
  rfl

/-- A step that changes nothing revokes nothing. -/
theorem revokes_eq_false {step : CallStep} {token : RefreshToken} (h : step.after = step.before) :
    step.revokes token = false := by
  rw [revokes, h]
  cases step.before.store.find? token with
  | none => rfl
  | some record => simp

/-- A count that is nothing for a step without a change. -/
def CountsChanges (count : CallStep → Nat) : Prop :=
  ∀ step : CallStep, step.after = step.before → count step = 0

theorem signatures_countsChanges : CountsChanges signatures := by
  intro step hunchanged
  rw [signatures, hunchanged, Nat.sub_self]

theorem draws_countsChanges : CountsChanges draws := by
  intro step hunchanged
  rw [draws, hunchanged, Nat.sub_self]

theorem CountsChanges.total_eq_zero {count : CallStep → Nat} (h : CountsChanges count)
    {steps : List CallStep} (hunchanged : ∀ step ∈ steps, step.after = step.before) :
    total count steps = 0 := by
  induction steps with
  | nil => rfl
  | cons step rest ih =>
      rw [total, h step (hunchanged step List.mem_cons_self), Nat.zero_add]
      exact ih fun other hmem => hunchanged other (List.mem_cons_of_mem _ hmem)

end CallStep

/-- How a call ends that has revoked the record of a token: a revocation succeeds, a refresh of a
token that had lapsed tells so, and any other refresh gives a pair or tells why none was issued. -/
inductive EndsAsWinner (refused : List StoreOperation) (token : RefreshToken) (request : Request)
    (record : Record) (revokedAt : Instant) : Deployment.Reply → Prop
  | revoked (revoked : RefreshToken) : request = .revoke token →
      EndsAsWinner refused token request record revokedAt (.token (.ok revoked))
  | lapsed : request = .refresh token → record.expiresAt < revokedAt →
      EndsAsWinner refused token request record revokedAt (.pair (.error (.token .expired)))
  | paired (pair : TokenPair) : request = .refresh token → revokedAt ≤ record.expiresAt →
      EndsAsWinner refused token request record revokedAt (.pair (.ok pair))
  | failed (failure : DomainError) : request = .refresh token → IssuanceFails refused failure →
      EndsAsWinner refused token request record revokedAt (.pair (.error failure))

/-- A call fails because its token is not known or was revoked before. -/
def IsTurnedDown (reply : Deployment.Reply) : Prop :=
  reply.failure? = some (.refreshToken .invalid) ∨
    reply.failure? = some (.refreshToken .alreadyRevoked)

section Conversations

variable {refused : List StoreOperation} {token : RefreshToken}

theorem redeem_issues (config : ServiceConfig) (record : Record) (revokedAt : Instant) :
    Script.Issues (IssuanceFails refused)
      (EndsAsWinner refused token (.refresh token) record revokedAt) 1 1
      ((TokenService.redeem config (record.revoke revokedAt) revokedAt).map .pair) := by
  unfold TokenService.redeem
  split
  next hexpired => exact .done (.lapsed rfl (of_decide_eq_true hexpired))
  next hexpired =>
    have hle : revokedAt ≤ record.expiresAt :=
      Int.not_lt.mp fun hlt => hexpired (decide_eq_true hlt)
    refine (TokenService.generate_issues config _).map fun result hresult => ?_
    cases result with
    | ok pair => exact .paired pair rfl hle
    | error failure => exact .failed failure rfl (hresult failure rfl)

/-- A call that presents a token begins by revoking it. Where that fails it ends with the failure,
and where it succeeds it may go on to issue one pair. -/
theorem script_of_presents {request : Request} (h : request.presents token = true)
    (refused : List StoreOperation) (config : ServiceConfig) :
    ∃ next, request.script config = .revoke token next ∧
      (∀ failure, ∃ reply, next (.error failure) = .done reply ∧ reply.failure? = some failure) ∧
      ∀ (record : Record) (now : Instant),
        Script.Issues (IssuanceFails refused) (EndsAsWinner refused token request record now) 1 1
          (next (.ok (record.revoke now))) := by
  cases request with
  | login => cases h
  | verify => cases h
  | refresh presented =>
      cases of_decide_eq_true h
      exact ⟨_, rfl, fun failure => ⟨_, rfl, rfl⟩,
        fun record now => redeem_issues config record now⟩
  | revoke presented =>
      cases of_decide_eq_true h
      exact ⟨_, rfl, fun failure => ⟨_, rfl, rfl⟩, fun record now => .done (.revoked _ rfl)⟩

end Conversations

namespace Interleaving

/-- The sum of a count over all steps of the calls that present a token. -/
def totalFor (s : Interleaving) (token : RefreshToken) (count : CallStep → Nat) : Nat :=
  CallStep.total count (s.stepsFor token)

/-! ## The invariant -/

/-- A call on a token that has changed nothing so far: it has not begun, or it was turned down. -/
structure IsQuiet (s : Interleaving) (index : Nat) (call : ServiceCall) : Prop where
  unchanged : ∀ step ∈ s.steps, step.call = index → step.after = step.before
  script : (∃ config, call.script = call.request.script config) ∨
    ∃ reply, call.script = .done reply ∧ IsTurnedDown reply

/-- The call that has revoked a token. What it may still issue and what was issued for the token are
bounded together. -/
structure IsWinner (s : Interleaving) (token : RefreshToken) (index : Nat) (call : ServiceCall) :
    Prop where
  took : ∃ step ∈ s.steps, step.call = index ∧ ∃ record, step.Takes token record ∧
    ∃ signatures draws,
      Script.Issues (IssuanceFails s.deployment.refused)
        (EndsAsWinner s.deployment.refused token call.request record step.before.clock.now)
        signatures draws call.script ∧
      signatures + s.totalFor token CallStep.signatures ≤ 1 ∧
      draws + s.totalFor token CallStep.draws ≤ 1
  spent : s.deployment.IsSpent token

/-- What is true at every turn, with the call that has revoked a token if there is one. -/
structure Invariant (s : Interleaving) (token : RefreshToken) (winner : Option Nat) : Prop where
  fresh : s.deployment.DrawsFresh
  revokes : .revoke ∉ s.deployment.refused
  known : ∀ step ∈ s.steps, ∃ call, s.calls[step.call]? = some call ∧ call.request = step.request
  quiet : ∀ index call, s.calls[index]? = some call → call.request.presents token = true →
    winner ≠ some index → s.IsQuiet index call
  won : ∀ index, winner = some index → ∃ call, s.calls[index]? = some call ∧
    call.request.presents token = true ∧ s.IsWinner token index call

variable {s : Interleaving} {token : RefreshToken} {winner : Option Nat} {index : Nat}
  {call : ServiceCall}

theorem start_invariant {d : Deployment} (hfresh : d.DrawsFresh) (hrevokes : .revoke ∉ d.refused)
    (token : RefreshToken) : Invariant { deployment := d } token none where
  fresh := hfresh
  revokes := hrevokes
  known step hmem := by cases hmem
  quiet index call hcall := by simp at hcall
  won index heq := by cases heq

/-! ### Turns beside the calls -/

theorem IsWinner.later {s' : Interleaving} (h : s.IsWinner token index call)
    (hd : s.deployment.Evolves s'.deployment) (hsteps : ∀ step ∈ s.steps, step ∈ s'.steps)
    (htotal : ∀ count, CallStep.CountsChanges count →
      s'.totalFor token count = s.totalFor token count) :
    s'.IsWinner token index call where
  took := by
    obtain ⟨step, hmem, hcall, record, htakes, hissues⟩ := h.took
    refine ⟨step, hsteps step hmem, hcall, record, htakes, ?_⟩
    rw [hd.refused_eq, htotal _ CallStep.signatures_countsChanges,
      htotal _ CallStep.draws_countsChanges]
    exact hissues
  spent := h.spent.evolve hd

theorem Invariant.evolve (h : s.Invariant token winner) {d : Deployment}
    (hd : s.deployment.Evolves d) : Invariant { s with deployment := d } token winner where
  fresh := h.fresh.evolve hd
  revokes := by
    simp only [hd.refused_eq]
    exact h.revokes
  known := h.known
  quiet index call hcall hpresents hne :=
    ⟨(h.quiet index call hcall hpresents hne).unchanged,
      (h.quiet index call hcall hpresents hne).script⟩
  won index heq := by
    obtain ⟨call, hcall, hpresents, hwinner⟩ := h.won index heq
    exact ⟨call, hcall, hpresents, hwinner.later hd (fun _ hmem => hmem) fun _ _ => rfl⟩

theorem Invariant.arrive (h : s.Invariant token winner) (request : Request) :
    (s.take (.arrive request)).Invariant token winner where
  fresh := h.fresh
  revokes := h.revokes
  known step hmem := by
    obtain ⟨call, hcall, hrequest⟩ := h.known step hmem
    exact ⟨call, calls_arrive.mpr (.inl hcall), hrequest⟩
  quiet index call hcall hpresents hne := by
    rcases calls_arrive.mp hcall with hold | ⟨rfl, rfl⟩
    · exact ⟨(h.quiet index call hold hpresents hne).unchanged,
        (h.quiet index call hold hpresents hne).script⟩
    · -- every step belongs to a call that had arrived before it
      refine ⟨fun step hmem heq => ?_, .inl ⟨_, rfl⟩⟩
      obtain ⟨call, hcall, -⟩ := h.known step hmem
      rw [heq, List.getElem?_eq_none (Nat.le_refl _)] at hcall
      cases hcall
  won index heq := by
    obtain ⟨call, hcall, hpresents, hwinner⟩ := h.won index heq
    exact ⟨call, calls_arrive.mpr (.inl hcall), hpresents,
      hwinner.later s.deployment.evolves_refl (fun _ hmem => hmem) fun _ _ => rfl⟩

/-! ### Steps of calls -/

theorem stepsFor_advance {script : Script Deployment.Reply} {d : Deployment} :
    (s.advance index call script d).stepsFor token =
      if call.request.presents token = true then
        ⟨index, call.request, s.deployment, d⟩ :: s.stepsFor token
      else s.stepsFor token := by
  simp [advance, stepsFor, List.filter_cons]

/-- The step of a call is no step of the others. -/
theorem IsQuiet.advance {other : Nat} {quiet : ServiceCall} (h : s.IsQuiet other quiet)
    (hne : index ≠ other) (call : ServiceCall) (script : Script Deployment.Reply)
    (d : Deployment) : (s.advance index call script d).IsQuiet other quiet where
  unchanged step hmem heq := by
    rcases List.mem_cons.mp hmem with rfl | hold
    · exact absurd heq hne
    · exact h.unchanged step hold heq
  script := h.script

theorem Invariant.known_advance (h : s.Invariant token winner)
    (hcall : s.calls[index]? = some call) (script : Script Deployment.Reply) (d : Deployment) :
    ∀ step ∈ (s.advance index call script d).steps,
      ∃ known, (s.advance index call script d).calls[step.call]? = some known ∧
        known.request = step.request := by
  intro step hmem
  rw [calls_advance hcall]
  rcases List.mem_cons.mp hmem with rfl | hold
  · rw [if_pos rfl]
    exact ⟨_, rfl, rfl⟩
  · obtain ⟨known, hknown, hrequest⟩ := h.known step hold
    split
    next heq =>
      rw [heq, hcall] at hknown
      cases hknown
      exact ⟨_, rfl, hrequest⟩
    next => exact ⟨known, hknown, hrequest⟩

/-- The invariant after a step of a call that presents another token, or none. -/
theorem Invariant.advance_stranger (h : s.Invariant token winner)
    (hcall : s.calls[index]? = some call) (hstranger : call.request.presents token = false)
    (script : Script Deployment.Reply) {d : Deployment} (hd : s.deployment.Evolves d) :
    (s.advance index call script d).Invariant token winner where
  fresh := h.fresh.evolve hd
  revokes := by
    simp only [advance, hd.refused_eq]
    exact h.revokes
  known := h.known_advance hcall script d
  quiet other found hfound hpresents hne := by
    rw [calls_advance hcall] at hfound
    split at hfound
    next heq =>
      cases hfound
      rw [hstranger] at hpresents
      cases hpresents
    next hother =>
      exact (h.quiet other found hfound hpresents hne).advance (Ne.symm hother) call script d
  won other heq := by
    obtain ⟨found, hfound, hpresents, hwinner⟩ := h.won other heq
    have hne : other ≠ index := by
      rintro rfl
      rw [hcall] at hfound
      cases hfound
      rw [hstranger] at hpresents
      cases hpresents
    have hsteps : (s.advance index call script d).stepsFor token = s.stepsFor token := by
      rw [stepsFor_advance, hstranger]
      simp
    refine ⟨found, by rw [calls_advance hcall, if_neg hne, hfound], hpresents,
      hwinner.later hd (fun _ hmem => List.mem_cons_of_mem _ hmem) fun count _ => ?_⟩
    rw [totalFor, hsteps, totalFor]

theorem totalFor_advance {script : Script Deployment.Reply} {d : Deployment}
    (hpresents : call.request.presents token = true) (count : CallStep → Nat) :
    (s.advance index call script d).totalFor token count =
      count ⟨index, call.request, s.deployment, d⟩ + s.totalFor token count := by
  rw [totalFor, stepsFor_advance, if_pos hpresents]
  rfl

/-- The invariant after a step in which a call is turned down. -/
theorem Invariant.advance_quiet (h : s.Invariant token winner)
    (hcall : s.calls[index]? = some call) (hpresents : call.request.presents token = true)
    (hne : winner ≠ some index) {reply : Deployment.Reply} (hreply : IsTurnedDown reply) :
    (s.advance index call (.done reply) s.deployment).Invariant token winner where
  fresh := h.fresh
  revokes := h.revokes
  known := h.known_advance hcall _ _
  quiet other found hfound hfoundPresents hother := by
    rw [calls_advance hcall] at hfound
    split at hfound
    next heq =>
      cases hfound
      subst heq
      refine ⟨fun step hmem hstep => ?_, .inr ⟨reply, rfl, hreply⟩⟩
      rcases List.mem_cons.mp hmem with rfl | hold
      · rfl
      · exact (h.quiet _ call hcall hpresents hne).unchanged step hold hstep
    next hdistinct =>
      exact (h.quiet other found hfound hfoundPresents hother).advance (Ne.symm hdistinct) _ _ _
  won other heq := by
    obtain ⟨found, hfound, hfoundPresents, hwinner⟩ := h.won other heq
    have hdistinct : other ≠ index := fun hsame => hne (hsame ▸ heq)
    refine ⟨found, by rw [calls_advance hcall, if_neg hdistinct, hfound], hfoundPresents,
      hwinner.later s.deployment.evolves_refl (fun _ hmem => List.mem_cons_of_mem _ hmem)
        fun count hcount => ?_⟩
    rw [totalFor_advance hpresents, hcount _ rfl, Nat.zero_add]

/-- As long as no call has revoked a token, nothing was done for it. -/
theorem Invariant.totalFor_eq_zero (h : s.Invariant token none) {count : CallStep → Nat}
    (hcount : CallStep.CountsChanges count) : s.totalFor token count = 0 := by
  refine hcount.total_eq_zero fun step hmem => ?_
  obtain ⟨hstep, hpresents⟩ := List.mem_filter.mp hmem
  obtain ⟨call, hcall, hrequest⟩ := h.known step hstep
  exact (h.quiet step.call call hcall (hrequest ▸ hpresents) nofun).unchanged step hstep rfl

/-- Where a call has made a step, the others are as quiet as they were. -/
theorem Invariant.quiet_advance (h : s.Invariant token winner)
    (hcall : s.calls[index]? = some call) (hwinner : winner = none ∨ winner = some index)
    (script : Script Deployment.Reply) (d : Deployment) {other : Nat} {found : ServiceCall}
    (hfound : (s.advance index call script d).calls[other]? = some found)
    (hpresents : found.request.presents token = true) (hne : some index ≠ some other) :
    (s.advance index call script d).IsQuiet other found := by
  have hdistinct : other ≠ index := fun heq => hne (congrArg some heq.symm)
  rw [calls_advance hcall, if_neg hdistinct] at hfound
  have hother : winner ≠ some other := by
    rcases hwinner with rfl | rfl
    · nofun
    · exact hne
  exact (h.quiet other found hfound hpresents hother).advance (Ne.symm hdistinct) call script d

/-- The invariant after the step in which a call revokes the token: it has won. -/
theorem Invariant.advance_taken (h : s.Invariant token none)
    (hcall : s.calls[index]? = some call) (hpresents : call.request.presents token = true)
    {script : Script Deployment.Reply} {record : Record}
    (hfound : s.deployment.store.find? token = some record) (hactive : record.isActive = true)
    (hleft : (s.deployment.storeRevoke token).2.store.find? token =
      some (record.revoke s.deployment.clock.now))
    (hspent : (s.deployment.storeRevoke token).2.IsSpent token)
    (hissues : Script.Issues (IssuanceFails s.deployment.refused)
      (EndsAsWinner s.deployment.refused token call.request record s.deployment.clock.now) 1 1
      script) :
    (s.advance index call script (s.deployment.storeRevoke token).2).Invariant token
      (some index) := by
  have hevolves := s.deployment.storeRevoke_evolves token
  obtain ⟨hsigned, hdrawn⟩ := s.deployment.storeRevoke_counts token
  have hsignatures := h.totalFor_eq_zero CallStep.signatures_countsChanges
  have hdraws := h.totalFor_eq_zero CallStep.draws_countsChanges
  refine ⟨h.fresh.evolve hevolves, ?_, h.known_advance hcall _ _,
    fun other found hother hfoundPresents hne =>
      h.quiet_advance hcall (.inl rfl) _ _ hother hfoundPresents hne, ?_⟩
  · simp only [advance, hevolves.refused_eq]
    exact h.revokes
  · rintro other heq
    cases heq
    refine ⟨{ call with script }, by rw [calls_advance hcall, if_pos rfl], hpresents, ?_, hspent⟩
    refine ⟨_, List.mem_cons_self, rfl, record, ⟨hfound, hactive, hleft⟩, 1, 1, ?_, ?_, ?_⟩
    · simp only [advance, hevolves.refused_eq]
      exact hissues
    · rw [totalFor_advance hpresents]
      simp only [CallStep.signatures]
      omega
    · rw [totalFor_advance hpresents]
      simp only [CallStep.draws]
      omega

/-- The invariant after any later step of the winner. -/
theorem Invariant.advance_winner (h : s.Invariant token (some index))
    (hcall : s.calls[index]? = some call) (hpresents : call.request.presents token = true)
    (cacheFirst : Bool) (reading : Instant) :
    (s.proceed index cacheFirst reading).Invariant token (some index) := by
  obtain ⟨_, hwon, -, hwinner⟩ := h.won index rfl
  rw [hcall] at hwon
  cases hwon
  obtain ⟨step, hmem, hstep, record, htakes, signatures, draws, hissues, hsignatures, hdraws⟩ :=
    hwinner.took
  obtain ⟨fewerSignatures, fewerDraws, hissues, hsigned, hdrawn⟩ :=
    hissues.step h.fresh cacheFirst reading
  have hevolves := s.deployment.step_evolves call.script cacheFirst reading
  simp only [proceed, hcall]
  -- what the step takes moves from what may still be issued to what was issued
  refine ⟨h.fresh.evolve hevolves, ?_, h.known_advance hcall _ _,
    fun other found hother hfoundPresents hne =>
      h.quiet_advance hcall (.inr rfl) _ _ hother hfoundPresents hne, ?_⟩
  · simp only [advance, hevolves.refused_eq]
    exact h.revokes
  · rintro other heq
    cases heq
    refine ⟨{ call with
        script := (call.script.step (Deployment.collaboratorsAt reading) cacheFirst
          s.deployment).1 },
      by rw [calls_advance hcall, if_pos rfl], hpresents, ?_, hwinner.spent.evolve hevolves⟩
    refine ⟨step, List.mem_cons_of_mem _ hmem, hstep, record, htakes, fewerSignatures, fewerDraws,
      ?_, ?_, ?_⟩
    · simp only [advance, hevolves.refused_eq]
      exact hissues
    · rw [totalFor_advance hpresents]
      simp only [CallStep.signatures]
      omega
    · rw [totalFor_advance hpresents]
      simp only [CallStep.draws]
      omega

/-- A call that presents a token and has not begun wins it or is turned down. -/
theorem Invariant.begin (h : s.Invariant token winner) (hcall : s.calls[index]? = some call)
    (hpresents : call.request.presents token = true) (hne : winner ≠ some index)
    {config : ServiceConfig} (hscript : call.script = call.request.script config)
    (cacheFirst : Bool) (reading : Instant) :
    ∃ winner, (s.proceed index cacheFirst reading).Invariant token winner := by
  obtain ⟨next, hrevoke, hfailed, htaken⟩ :=
    script_of_presents hpresents s.deployment.refused config
  have hproceed : s.proceed index cacheFirst reading =
      s.advance index call (next (s.deployment.storeRevoke token).1)
        (s.deployment.storeRevoke token).2 := by
    simp only [proceed, hcall, hscript, hrevoke, Script.step]
    rfl
  rw [hproceed]
  rcases Deployment.storeRevoke_cases h.revokes h.fresh token with
    ⟨record, hfound, hactive, hanswer, hleft, hspent⟩ | ⟨cause, hcause, heq⟩
  · cases winner with
    | some other =>
        -- the token is spent already, so that its record cannot have been active
        obtain ⟨_, -, -, hwinner⟩ := h.won other rfl
        rw [hwinner.spent.not_active record hfound] at hactive
        cases hactive
    | none =>
        rw [hanswer]
        exact ⟨some index,
          h.advance_taken hcall hpresents hfound hactive hleft hspent (htaken record _)⟩
  · obtain ⟨reply, hdone, hfailure⟩ := hfailed (.refreshToken cause)
    rw [heq, hdone]
    refine ⟨winner, h.advance_quiet hcall hpresents hne ?_⟩
    rcases hcause with rfl | rfl
    · exact .inl hfailure
    · exact .inr hfailure

theorem Invariant.proceed (h : s.Invariant token winner) (index : Nat) (cacheFirst : Bool)
    (reading : Instant) :
    ∃ winner, (s.proceed index cacheFirst reading).Invariant token winner := by
  cases hcall : s.calls[index]? with
  | none =>
      simp only [Interleaving.proceed, hcall]
      exact ⟨winner, h⟩
  | some call =>
      cases hpresents : call.request.presents token with
      | false =>
          simp only [Interleaving.proceed, hcall]
          exact ⟨winner, h.advance_stranger hcall hpresents _
            (s.deployment.step_evolves call.script cacheFirst reading)⟩
      | true =>
          by_cases hwinner : winner = some index
          · subst hwinner
            exact ⟨some index, h.advance_winner hcall hpresents cacheFirst reading⟩
          · rcases (h.quiet index call hcall hpresents hwinner).script with
              ⟨config, hscript⟩ | ⟨reply, hscript, hreply⟩
            · exact h.begin hcall hpresents hwinner hscript cacheFirst reading
            · simp only [Interleaving.proceed, hcall, hscript, Script.step]
              exact ⟨winner, h.advance_quiet hcall hpresents hwinner hreply⟩

/-! ## Every interleaving -/

theorem Invariant.take (h : s.Invariant token winner) (turn : Turn) :
    ∃ winner, (s.take turn).Invariant token winner := by
  cases turn with
  | arrive request => exact ⟨winner, h.arrive request⟩
  | proceed index cacheFirst reading => exact h.proceed index cacheFirst reading
  | moveClock m =>
      exact ⟨winner, h.evolve (Deployment.evolves_of_keeps s.deployment.store.keeps_refl ..)⟩
  | prolong token reading => exact ⟨winner, h.evolve (s.deployment.prolongAt_evolves ..)⟩
  | revokeExpired reading => exact ⟨winner, h.evolve (s.deployment.revokeExpiredAt_evolves _)⟩
  | deleteExpired span reading =>
      exact ⟨winner, h.evolve (s.deployment.deleteExpiredForAt_evolves ..)⟩

theorem Invariant.run (h : s.Invariant token winner) (turns : List Turn) :
    ∃ winner, (s.run turns).Invariant token winner := by
  induction turns generalizing s winner with
  | nil => exact ⟨winner, h⟩
  | cons turn turns ih =>
      obtain ⟨next, hnext⟩ := h.take turn
      exact ih hnext

/-- A call presents a refresh token. -/
def Presents (s : Interleaving) (token : RefreshToken) (index : Nat) : Prop :=
  ∃ call, s.calls[index]? = some call ∧ call.request.presents token = true

/-- A call has revoked an active refresh token in one of its steps. -/
def HasRevoked (s : Interleaving) (token : RefreshToken) (index : Nat) : Prop :=
  ∃ step ∈ s.steps, step.call = index ∧ step.revokes token = true

/-- A refresh token is used once in an interleaving of calls. -/
structure IsUsedOnce (s : Interleaving) (token : RefreshToken) : Prop where
  /-- At most one call revokes the token. -/
  revoked_once : ∀ i j, s.Presents token i → s.Presents token j →
    s.HasRevoked token i → s.HasRevoked token j → i = j
  /-- At most one call is answered with a pair. -/
  paired_once : ∀ i j pair other, s.Presents token i → s.Presents token j →
    s.reply? i = some (.pair (.ok pair)) → s.reply? j = some (.pair (.ok other)) → i = j
  /-- All calls on the token together sign at most one access token. -/
  signed_once : s.totalFor token CallStep.signatures ≤ 1
  /-- All calls on the token together draw at most one refresh token. -/
  drawn_once : s.totalFor token CallStep.draws ≤ 1
  /-- A call is answered with a pair only if it found the token active and not expired when it
  revoked it. -/
  paired_in_time : ∀ i pair, s.Presents token i → s.reply? i = some (.pair (.ok pair)) →
    ∃ step ∈ s.steps, step.call = i ∧ ∃ record, step.Takes token record ∧
      step.before.clock.now ≤ record.expiresAt
  /-- The call that has revoked the token fails only if it is a refresh, and then because the token
  had lapsed or because no pair could be issued. -/
  winner_fails : ∀ i reply failure, s.Presents token i → s.HasRevoked token i →
    s.reply? i = some reply → reply.failure? = some failure →
      (s.calls[i]?.map ServiceCall.request = some (.refresh token)) ∧
        ((failure = .token .expired ∧ ∃ step ∈ s.steps, step.call = i ∧
            ∃ record, step.Takes token record ∧ record.expiresAt < step.before.clock.now) ∨
          IssuanceFails s.deployment.refused failure)
  /-- Every other call fails. -/
  loser_fails : ∀ i reply, s.Presents token i → ¬ s.HasRevoked token i →
    s.reply? i = some reply → IsTurnedDown reply
  /-- No other call changes the store, the cache or anything else. -/
  loser_unchanged : ∀ step ∈ s.steps, step.request.presents token = true →
    ¬ s.HasRevoked token step.call → step.after = step.before

namespace Invariant

theorem hasRevoked_iff (h : s.Invariant token winner) (hpresents : s.Presents token index) :
    s.HasRevoked token index ↔ winner = some index := by
  obtain ⟨call, hcall, hrequest⟩ := hpresents
  constructor
  · rintro ⟨step, hmem, hstep, hrevokes⟩
    refine Decidable.byContradiction fun hne => ?_
    have hunchanged := (h.quiet index call hcall hrequest hne).unchanged step hmem hstep
    rw [CallStep.revokes_eq_false hunchanged] at hrevokes
    cases hrevokes
  · intro heq
    obtain ⟨_, -, -, hwinner⟩ := h.won index heq
    obtain ⟨step, hmem, hstep, record, htakes, -⟩ := hwinner.took
    exact ⟨step, hmem, hstep, htakes.revokes⟩

/-- A reply to a call that did not win turns it down. -/
theorem turnedDown (h : s.Invariant token winner) (hpresents : s.Presents token index)
    (hne : winner ≠ some index) {reply : Deployment.Reply} (hreply : s.reply? index = some reply) :
    IsTurnedDown reply := by
  obtain ⟨call, hcall, hrequest⟩ := hpresents
  obtain ⟨_, hfound, hscript⟩ := reply?_eq_some_iff.mp hreply
  rw [hcall] at hfound
  cases hfound
  rcases (h.quiet index call hcall hrequest hne).script with
    ⟨config, hwaits⟩ | ⟨given, hdone, hdown⟩
  · obtain ⟨next, hrevoke, -⟩ := script_of_presents hrequest [] config
    rw [hscript, hrevoke] at hwaits
    cases hwaits
  · rw [hscript] at hdone
    cases hdone
    exact hdown

/-- A reply to the winner is one of those that a winner can get. -/
theorem endsAsWinner (h : s.Invariant token (some index)) {reply : Deployment.Reply}
    (hreply : s.reply? index = some reply) :
    ∃ call, s.calls[index]? = some call ∧ ∃ step ∈ s.steps, step.call = index ∧
      ∃ record, step.Takes token record ∧
        EndsAsWinner s.deployment.refused token call.request record step.before.clock.now
          reply := by
  obtain ⟨call, hcall, hrequest, hwinner⟩ := h.won index rfl
  obtain ⟨_, hfound, hscript⟩ := reply?_eq_some_iff.mp hreply
  rw [hcall] at hfound
  cases hfound
  obtain ⟨step, hmem, hstep, record, htakes, signatures, draws, hissues, -⟩ := hwinner.took
  rw [hscript] at hissues
  cases hissues with
  | done hends => exact ⟨call, hcall, step, hmem, hstep, record, htakes, hends⟩

theorem winner_of_pair (h : s.Invariant token winner) (hpresents : s.Presents token index)
    {pair : TokenPair} (hreply : s.reply? index = some (.pair (.ok pair))) :
    winner = some index := by
  refine Decidable.byContradiction fun hne => ?_
  rcases h.turnedDown hpresents hne hreply with hfailure | hfailure <;> cases hfailure

theorem isUsedOnce (h : s.Invariant token winner) : s.IsUsedOnce token where
  revoked_once i j hi hj hirevoked hjrevoked := by
    have hwinner := (h.hasRevoked_iff hi).mp hirevoked
    rw [(h.hasRevoked_iff hj).mp hjrevoked] at hwinner
    exact (Option.some.inj hwinner).symm
  paired_once i j pair other hi hj hireply hjreply := by
    have hwinner := h.winner_of_pair hi hireply
    rw [h.winner_of_pair hj hjreply] at hwinner
    exact (Option.some.inj hwinner).symm
  signed_once := by
    cases winner with
    | none =>
        rw [h.totalFor_eq_zero CallStep.signatures_countsChanges]
        exact Nat.zero_le 1
    | some index =>
        obtain ⟨_, -, -, hwinner⟩ := h.won index rfl
        obtain ⟨_, -, -, _, -, _, _, -, hsignatures, -⟩ := hwinner.took
        omega
  drawn_once := by
    cases winner with
    | none =>
        rw [h.totalFor_eq_zero CallStep.draws_countsChanges]
        exact Nat.zero_le 1
    | some index =>
        obtain ⟨_, -, -, hwinner⟩ := h.won index rfl
        obtain ⟨_, -, -, _, -, _, _, -, -, hdraws⟩ := hwinner.took
        omega
  paired_in_time i pair hi hreply := by
    cases h.winner_of_pair hi hreply
    obtain ⟨call, -, step, hmem, hstep, record, htakes, hends⟩ := h.endsAsWinner hreply
    cases hends with
    | paired _ _ hle => exact ⟨step, hmem, hstep, record, htakes, hle⟩
  winner_fails i reply failure hi hrevoked hreply hfailure := by
    cases (h.hasRevoked_iff hi).mp hrevoked
    obtain ⟨call, hcall, step, hmem, hstep, record, htakes, hends⟩ := h.endsAsWinner hreply
    cases hends with
    | revoked _ _ => cases hfailure
    | lapsed hrequest hlt =>
        cases hfailure
        refine ⟨by rw [hcall, Option.map_some, hrequest], .inl ⟨rfl, ?_⟩⟩
        exact ⟨step, hmem, hstep, record, htakes, hlt⟩
    | paired _ _ _ => cases hfailure
    | failed _ hrequest hfails =>
        cases hfailure
        exact ⟨by rw [hcall, Option.map_some, hrequest], .inr hfails⟩
  loser_fails i reply hi hnot hreply :=
    h.turnedDown hi (fun hwinner => hnot ((h.hasRevoked_iff hi).mpr hwinner)) hreply
  loser_unchanged step hmem hpresents hnot := by
    obtain ⟨call, hcall, hrequest⟩ := h.known step hmem
    have hcalls : call.request.presents token = true := hrequest ▸ hpresents
    have hne : winner ≠ some step.call := fun hwinner =>
      hnot ((h.hasRevoked_iff ⟨call, hcall, hcalls⟩).mpr hwinner)
    exact (h.quiet step.call call hcall hcalls hne).unchanged step hmem rfl

end Invariant

/-- However calls of the service are interleaved with each other, with prolongations, sweeps and
movements of the clock, every refresh token is used once. Tokens are drawn without repetition, and
the store does not refuse to revoke. -/
theorem run_isUsedOnce (d : Deployment) (hfresh : d.DrawsFresh) (hrevokes : .revoke ∉ d.refused)
    (turns : List Turn) (token : RefreshToken) :
    (Interleaving.run { deployment := d } turns).IsUsedOnce token := by
  obtain ⟨winner, h⟩ := (start_invariant hfresh hrevokes token).run turns
  exact h.isUsedOnce

/-- Two refreshes race for the token of a login, while a sweep is made with an old reading. -/
theorem race_isUsedOnce :
    let ids : Nat → RefreshToken := fun n => ⟨String.ofList (List.replicate n 'a')⟩
    let d : Deployment :=
      { config := ⟨"issuer", ⟨[115]⟩, .ofSeconds 60⟩, refreshLifetime := .ofSeconds 600
        clock := .startingAt .epoch, ids }
    let holder : SecurityContext := ⟨⟨7, by decide, by decide⟩, .user⟩
    let turns : List Turn := [.arrive (.login holder), .proceed 0 false .epoch,
      .proceed 0 false .epoch, .proceed 0 true .epoch, .proceed 0 false .epoch,
      .arrive (.refresh (ids 0)), .arrive (.refresh (ids 0)), .proceed 2 false .epoch,
      .revokeExpired .epoch, .proceed 1 false .epoch, .proceed 2 false .epoch]
    d.DrawsFresh ∧ .revoke ∉ d.refused ∧
      (Interleaving.run { deployment := d } turns).IsUsedOnce (ids 0) := by
  intro ids d holder turns
  have hfresh : d.DrawsFresh := by
    refine ⟨fun m n _ _ heq => ?_, fun n _ => rfl⟩
    have hlists := String.ofList_injective (congrArg RefreshToken.text heq)
    simpa using congrArg List.length hlists
  have hrevokes : StoreOperation.revoke ∉ d.refused := List.not_mem_nil
  exact ⟨hfresh, hrevokes, run_isUsedOnce d hfresh hrevokes turns (ids 0)⟩

end Interleaving

end SessionTokens
