import SessionTokens.Proofs.Store.Separation
import SessionTokens.Service.Deployment

/-! # Deployments that cannot be told apart

Two deployments that keep the same under every token of some kind answer alike whatever they are
told, as long as no other token is presented and nobody asks for a sweep, whose count tells of all
records. Both draw the same tokens. They are of that kind as well, so that what one deployment has
issued and prolonged since is known to the other.
-/

namespace SessionTokens

open Time

namespace Deployment

variable {visible : RefreshToken → Prop} {d other : Deployment}

/-- Deployments that differ in nothing but what they keep under tokens that are not of some kind,
and in how often their sweeps were called. -/
inductive Resembles (visible : RefreshToken → Prop) (d : Deployment) : Deployment → Prop
  | intro (store : Store) (revokeSweeps deleteSweeps : Nat)
      (agrees : d.store.AgreesOn visible store) (draws : ∀ n, d.drawn ≤ n → visible (d.ids n)) :
      Resembles visible d { d with store, revokeSweeps, deleteSweeps }

/-- An action that is answered alike by deployments that resemble each other, and leaves them so. -/
def IsBlind (visible : RefreshToken → Prop) (act : Deployment → α × Deployment) : Prop :=
  ∀ d other, d.Resembles visible other →
    (act other).1 = (act d).1 ∧ (act d).2.Resembles visible (act other).2

namespace IsBlind

theorem pure (result : α) : IsBlind visible fun d => (result, d) := by
  intro d other h
  exact ⟨rfl, h⟩

theorem map {act : Deployment → α × Deployment} (h : IsBlind visible act) (f : α → β) :
    IsBlind visible fun d => (f (act d).1, (act d).2) := by
  intro d other hd
  obtain ⟨hanswer, hafter⟩ := h d other hd
  exact ⟨congrArg f hanswer, hafter⟩

theorem bind {act : Deployment → α × Deployment} (h : IsBlind visible act)
    (next : α → Deployment → β × Deployment) (hnext : ∀ answer, IsBlind visible (next answer)) :
    IsBlind visible fun d => next (act d).1 (act d).2 := by
  intro d other hd
  obtain ⟨hanswer, hafter⟩ := h d other hd
  simp only [hanswer]
  exact hnext _ _ _ hafter

end IsBlind

/-- What does not look at the store is answered alike. -/
theorem isBlind_of_store_eq {act : Deployment → α × Deployment}
    (hsame : ∀ d store revokeSweeps deleteSweeps,
      act { d with store, revokeSweeps, deleteSweeps } =
        ((act d).1, { (act d).2 with store, revokeSweeps, deleteSweeps }))
    (hkept : ∀ d, (act d).2.store = d.store ∧ (act d).2.ids = d.ids ∧ (act d).2.drawn = d.drawn) :
    IsBlind visible act := by
  rintro d - ⟨store, m, n, hagrees, hdraws⟩
  obtain ⟨hstore, hids, hdrawn⟩ := hkept d
  rw [hsame]
  refine ⟨rfl, .intro store m n ?_ ?_⟩
  · rwa [hstore]
  · rwa [hids, hdrawn]

/-! ## The collaborators -/

theorem unlessRefused_isBlind (operation : StoreOperation)
    {act : Deployment → Except DomainError α × Deployment} (h : IsBlind visible act) :
    IsBlind visible (·.unlessRefused operation act) := by
  intro d other hd
  have hrefused : other.refused = d.refused := by
    cases hd
    rfl
  simp only [unlessRefused, hrefused]
  split
  next => exact ⟨rfl, hd⟩
  next => exact h d other hd

theorem readClock_isBlind : IsBlind visible fun d => (d.clock.now, d) :=
  isBlind_of_store_eq (fun _ _ _ _ => rfl) fun _ => ⟨rfl, rfl, rfl⟩

theorem sign_isBlind (claims : Claims) (secret : TokenSecret) :
    IsBlind visible (·.sign claims secret) :=
  isBlind_of_store_eq (fun _ _ _ _ => rfl) fun _ => ⟨rfl, rfl, rfl⟩

theorem extract_isBlind (token : AccessToken) (secret : TokenSecret) :
    IsBlind visible (·.extract token secret) :=
  isBlind_of_store_eq (fun _ _ _ _ => rfl) fun _ => ⟨rfl, rfl, rfl⟩

theorem consult_isBlind (token : AccessToken) : IsBlind visible (·.consult token) :=
  isBlind_of_store_eq (fun _ _ _ _ => rfl) fun _ => ⟨rfl, rfl, rfl⟩

theorem remember_isBlind (token : AccessToken) (context : SecurityContext) (expiresAt : Instant) :
    IsBlind visible (·.remember token context expiresAt) :=
  isBlind_of_store_eq (fun _ _ _ _ => rfl) fun _ => ⟨rfl, rfl, rfl⟩

theorem forget_isBlind (token : AccessToken) : IsBlind visible (·.forget token) :=
  isBlind_of_store_eq (fun _ _ _ _ => rfl) fun _ => ⟨rfl, rfl, rfl⟩

/-- Both draw the same token, and it is one that both know or neither does. -/
theorem insert_isBlind (context : SecurityContext) : IsBlind visible (·.insert context) := by
  refine readClock_isBlind.bind (fun now d => d.insertAt now context) ?_
  intro now
  refine unlessRefused_isBlind .insert ?_
  rintro d - ⟨store, m, n, hagrees, hdraws⟩
  let operation := Store.Operation.insert d.refreshLifetime now (d.ids d.drawn) context
  have hanswer : store.answer operation = d.store.answer operation :=
    Store.answer_congr rfl (hagrees _ (hdraws d.drawn (Nat.le_refl _)))
  have hlater : ∀ n, d.drawn + 1 ≤ n → visible (d.ids n) := by
    intro n hn
    exact hdraws n (Nat.le_of_succ_le hn)
  exact ⟨Store.Answer.issued.inj hanswer, .intro _ _ _ (hagrees.apply operation) hlater⟩

theorem storeRevoke_isBlind {token : RefreshToken} (hvisible : visible token) :
    IsBlind visible (·.storeRevoke token) := by
  refine unlessRefused_isBlind .revoke ?_
  rintro d - ⟨store, m, n, hagrees, hdraws⟩
  let operation := Store.Operation.revoke d.clock.now token
  have hanswer : store.answer operation = d.store.answer operation :=
    Store.answer_congr rfl (hagrees token hvisible)
  exact ⟨Store.Answer.revoked.inj hanswer, .intro _ _ _ (hagrees.apply operation) hdraws⟩

theorem prolong_isBlind {token : RefreshToken} (hvisible : visible token) :
    IsBlind visible (·.prolong token) := by
  refine readClock_isBlind.bind (fun now d => d.prolongAt now token) ?_
  intro now
  refine unlessRefused_isBlind .prolong ?_
  rintro d - ⟨store, m, n, hagrees, hdraws⟩
  let operation := Store.Operation.prolong d.refreshLifetime now token
  have hanswer : store.answer operation = d.store.answer operation :=
    Store.answer_congr rfl (hagrees token hvisible)
  exact ⟨Store.Answer.prolonged.inj hanswer, .intro _ _ _ (hagrees.apply operation) hdraws⟩

theorem find_isBlind {token : RefreshToken} (hvisible : visible token) :
    IsBlind visible fun d => (d.store.find? token, d) := by
  rintro d - ⟨store, m, n, hagrees, hdraws⟩
  exact ⟨hagrees token hvisible, .intro store m n hagrees hdraws⟩

end Deployment

/-! ## Conversations -/

namespace Script

open Deployment

/-- A conversation in which no other tokens are revoked than those of some kind. -/
inductive RevokesOnly (visible : RefreshToken → Prop) : Script α → Prop
  | done (result : α) : RevokesOnly visible (.done result)
  | readClock {next : Instant → Script α} :
      (∀ now, RevokesOnly visible (next now)) → RevokesOnly visible (.readClock next)
  | sign {claims : Claims} {secret : TokenSecret}
      {next : Except TokenError AccessToken → Script α} :
      (∀ answer, RevokesOnly visible (next answer)) →
        RevokesOnly visible (.sign claims secret next)
  | extract {token : AccessToken} {secret : TokenSecret}
      {next : Except TokenError Claims → Script α} :
      (∀ answer, RevokesOnly visible (next answer)) →
        RevokesOnly visible (.extract token secret next)
  | consult {token : AccessToken}
      {next : Except DomainError (Option SecurityContext) → Script α} :
      (∀ answer, RevokesOnly visible (next answer)) → RevokesOnly visible (.consult token next)
  | remember {token : AccessToken} {context : SecurityContext} {expiresAt : Instant}
      {next : Except DomainError (Option SecurityContext) → Script α} :
      (∀ answer, RevokesOnly visible (next answer)) →
        RevokesOnly visible (.remember token context expiresAt next)
  | insert {context : SecurityContext} {next : Except DomainError Record → Script α} :
      (∀ answer, RevokesOnly visible (next answer)) → RevokesOnly visible (.insert context next)
  | insertAndRemember {context : SecurityContext} {token : AccessToken} {expiresAt : Instant}
      {next : Except DomainError Record → Except DomainError (Option SecurityContext) → Script α} :
      (∀ inserted remembered, RevokesOnly visible (next inserted remembered)) →
        RevokesOnly visible (.insertAndRemember context token expiresAt next)
  | revoke {token : RefreshToken} {next : Except DomainError Record → Script α} :
      visible token → (∀ answer, RevokesOnly visible (next answer)) →
        RevokesOnly visible (.revoke token next)

variable {visible : RefreshToken → Prop}

theorem RevokesOnly.run_isBlind {script : Script α} (h : script.RevokesOnly visible) :
    IsBlind visible (script.run collaborators) := by
  induction h with
  | done result => exact .pure result
  | @readClock next _ ih =>
      exact readClock_isBlind.bind (fun now => (next now).run collaborators) ih
  | @sign claims secret next _ ih =>
      exact (sign_isBlind claims secret).bind (fun answer => (next answer).run collaborators) ih
  | @extract token secret next _ ih =>
      exact (extract_isBlind token secret).bind (fun answer => (next answer).run collaborators) ih
  | @consult token next _ ih =>
      exact (consult_isBlind token).bind (fun answer => (next answer).run collaborators) ih
  | @remember token context expiresAt next _ ih =>
      exact (remember_isBlind token context expiresAt).bind
        (fun answer => (next answer).run collaborators) ih
  | @insert context next _ ih =>
      exact (insert_isBlind context).bind (fun answer => (next answer).run collaborators) ih
  | @insertAndRemember context token expiresAt next _ ih =>
      refine (insert_isBlind context).bind (fun inserted d =>
        (next inserted (d.remember token context expiresAt).1).run collaborators
          (d.remember token context expiresAt).2) ?_
      intro inserted
      exact (remember_isBlind token context expiresAt).bind
        (fun remembered => (next inserted remembered).run collaborators) (ih inserted)
  | @revoke token next hvisible _ ih =>
      exact (storeRevoke_isBlind hvisible).bind (fun answer => (next answer).run collaborators) ih

end Script

namespace TokenService

open Script

variable {visible : RefreshToken → Prop} (config : ServiceConfig)

theorem generate_revokesOnly (context : SecurityContext) :
    (generate config context).RevokesOnly visible := by
  refine .readClock ?_
  intro issuedAt
  split
  next => exact .done _
  next claims _ =>
    refine .sign ?_
    intro answer
    cases answer with
    | error cause => exact .done _
    | ok accessToken =>
        apply RevokesOnly.insertAndRemember
        intro inserted remembered
        exact .done _

theorem verify_revokesOnly (token : AccessToken) : (verify config token).RevokesOnly visible := by
  have hafresh : (verifyAfresh config token).RevokesOnly visible := by
    refine .extract ?_
    intro answer
    cases answer with
    | error cause => exact .done _
    | ok claims =>
        refine .readClock ?_
        intro now
        split
        next => exact .done _
        next context _ =>
          apply RevokesOnly.remember
          intro answer
          exact .done _
  refine .consult ?_
  intro answer
  split
  next => exact .done _
  next => exact hafresh

theorem redeem_revokesOnly (record : Record) (revokedAt : Instant) :
    (redeem config record revokedAt).RevokesOnly visible := by
  unfold redeem
  split
  next => exact .done _
  next => exact generate_revokesOnly config record.context

theorem refresh_revokesOnly {token : RefreshToken} (hvisible : visible token) :
    (refresh config token).RevokesOnly visible := by
  refine .revoke hvisible ?_
  intro answer
  cases answer with
  | error failure => exact .done _
  | ok record =>
      dsimp only
      split
      next revokedAt _ => exact redeem_revokesOnly config record revokedAt
      next => exact .readClock (redeem_revokesOnly config record)

theorem revoke_revokesOnly {token : RefreshToken} (hvisible : visible token) :
    (revoke token).RevokesOnly visible := by
  refine .revoke hvisible ?_
  intro answer
  cases answer with
  | error failure => exact .done _
  | ok record => exact .done _

end TokenService

/-! ## Runs -/

namespace Deployment

variable {visible : RefreshToken → Prop}

/-- The refresh token that a command presents. -/
def Command.presented? : Command → Option RefreshToken
  | .refresh token | .revoke token | .race token _ | .storeRevoke token | .find token
  | .prolong token => some token
  | _ => none

/-- Whether a command asks for a sweep. -/
def Command.isSweep : Command → Bool
  | .revokeExpired | .deleteExpired _ | .reap _ => true
  | _ => false

/-- A service call works with the configuration that it finds. -/
theorem isBlind_of_revokesOnly {script : ServiceConfig → Script α}
    (h : ∀ config, (script config).RevokesOnly visible) :
    IsBlind visible fun d => (script d.config).run collaborators d := by
  have hconfig : IsBlind visible fun d => (d.config, d) :=
    isBlind_of_store_eq (fun _ _ _ _ => rfl) fun _ => ⟨rfl, rfl, rfl⟩
  refine hconfig.bind (fun config => (script config).run collaborators) ?_
  intro config
  exact (h config).run_isBlind

theorem race_isBlind {token : RefreshToken} (hvisible : visible token) (times : Nat) :
    IsBlind visible (·.race token times) := by
  induction times with
  | zero => exact .pure []
  | succ times ih =>
      have hrefresh : IsBlind visible (·.refresh token) :=
        isBlind_of_revokesOnly fun config => TokenService.refresh_revokesOnly config hvisible
      refine hrefresh.bind
        (fun result d => (result :: (d.race token times).1, (d.race token times).2)) ?_
      intro result
      exact ih.map (result :: ·)

theorem reply_isBlind {command : Command} (hsweep : command.isSweep = false)
    (hvisible : ∀ token, command.presented? = some token → visible token) :
    IsBlind visible (·.reply command) := by
  cases command with
  | move m =>
      apply isBlind_of_store_eq
      · intro d store revokeSweeps deleteSweeps
        unfold reply
        cases hmove : d.clock.move? m <;> simp only [hmove]
      · intro d
        unfold reply
        cases hmove : d.clock.move? m <;> simp only [hmove, and_self]
  | generate context =>
      exact (isBlind_of_revokesOnly fun config =>
        TokenService.generate_revokesOnly config context).map Reply.pair
  | verify token =>
      exact (isBlind_of_revokesOnly fun config =>
        TokenService.verify_revokesOnly config token).map Reply.identity
  | refresh token =>
      exact (isBlind_of_revokesOnly fun config =>
        TokenService.refresh_revokesOnly config (hvisible token rfl)).map Reply.pair
  | revoke token =>
      exact (TokenService.revoke_revokesOnly (hvisible token rfl)).run_isBlind.map Reply.token
  | race token times => exact (race_isBlind (hvisible token rfl) times).map Reply.pairs
  | insert context => exact (insert_isBlind context).map Reply.record
  | storeRevoke token => exact (storeRevoke_isBlind (hvisible token rfl)).map Reply.record
  | find token => exact (find_isBlind (hvisible token rfl)).map Reply.found
  | prolong token => exact (prolong_isBlind (hvisible token rfl)).map Reply.token
  | revokeExpired => cases hsweep
  | deleteExpired span => cases hsweep
  | reap grace => cases hsweep
  | remember token context expiresAt =>
      exact (remember_isBlind token context expiresAt).map Reply.cached
  | consult token => exact (consult_isBlind token).map Reply.cached
  | forget token => exact (forget_isBlind token).map Reply.cached
  | rotate config => exact isBlind_of_store_eq (fun _ _ _ _ => rfl) fun _ => ⟨rfl, rfl, rfl⟩

theorem perform_isBlind {command : Command} (hsweep : command.isSweep = false)
    (hvisible : ∀ token, command.presented? = some token → visible token) :
    IsBlind visible (·.perform command) := by
  refine (reply_isBlind hsweep hvisible).bind
    (fun r d => (r, { d with cache := d.cache.settle })) ?_
  intro r
  exact isBlind_of_store_eq (fun _ _ _ _ => rfl) fun _ => ⟨rfl, rfl, rfl⟩

/-- Commands that ask for no sweep and present only tokens of some kind. -/
def PresentsOnly (visible : RefreshToken → Prop) (commands : List Command) : Prop :=
  ∀ command ∈ commands, command.isSweep = false ∧
    ∀ token, command.presented? = some token → visible token

theorem performAll_isBlind {commands : List Command} (h : PresentsOnly visible commands) :
    IsBlind visible (·.performAll commands) := by
  induction commands with
  | nil => exact .pure []
  | cons command rest ih =>
      obtain ⟨hsweep, hvisible⟩ := h command List.mem_cons_self
      have hrest := ih fun other hother => h other (List.mem_cons_of_mem _ hother)
      refine (perform_isBlind hsweep hvisible).bind
        (fun r d => (r :: (d.performAll rest).1, (d.performAll rest).2)) ?_
      intro r
      exact hrest.map (r :: ·)

end Deployment

end SessionTokens
