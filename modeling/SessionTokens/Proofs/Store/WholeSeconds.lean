import SessionTokens.Proofs.Store
import SessionTokens.Proofs.Time.ManualClock
import SessionTokens.Store.Clocked

/-! # Whole seconds in a store

A store takes the times at which it issues and revokes from the clock. It computes no others, apart
from expiries. So while every operation works with a reading of whole seconds, these times are whole
seconds; and a reading is one also if its call had to wait for the store while the clock was moved.
-/

namespace SessionTokens

open Time

/-- The times at which a record was issued and revoked are whole seconds. -/
structure RecordOver.IsStampedInSeconds (record : Record) : Prop where
  issued : record.issuedAt.IsWhole
  revoked : ∀ time, record.revokedAt = some time → time.IsWhole

namespace Store

/-- All records were issued and revoked at whole seconds. -/
def IsStampedInSeconds (store : Store) : Prop :=
  ∀ token record, store.find? token = some record → record.IsStampedInSeconds

theorem empty_isStampedInSeconds : empty.IsStampedInSeconds := by
  intro token record hfound
  cases hfound

theorem issue_isStampedInSeconds {token : RefreshToken} {context : SecurityContext} {now : Instant}
    {lifetime : Duration} {record : Record} (hnow : now.IsWhole)
    (h : Record.issue token context now lifetime = .ok record) : record.IsStampedInSeconds := by
  unfold Record.issue at h
  split at h
  next => cases h
  next =>
    cases h
    refine ⟨hnow, ?_⟩
    intro time htime
    cases htime

/-- An operation that works with a reading of whole seconds stamps whole seconds. -/
theorem IsStampedInSeconds.apply {store : Store} (h : store.IsStampedInSeconds)
    {operation : Operation}
    (hreading : ∀ reading, operation.reading? = some reading → reading.IsWhole) :
    (store.apply operation).IsStampedInSeconds := by
  intro token record hleft
  have hleaves := store.apply_leaves operation token
  have hfound := h token
  rw [hleft] at hleaves
  generalize store.find? token = found at hleaves hfound
  cases hleaves with
  | kept => exact hfound record rfl
  | issued hoperation hissued =>
      subst hoperation
      exact issue_isStampedInSeconds (hreading _ rfl) hissued
  | prolonged _ _ => exact ⟨(hfound _ rfl).issued, (hfound _ rfl).revoked⟩
  | revoked hoperation _ =>
      refine ⟨(hfound _ rfl).issued, ?_⟩
      rintro time ⟨rfl⟩
      rcases hoperation with rfl | rfl
      · exact hreading _ rfl
      · exact hreading _ rfl

end Store

/-- A call works with the reading from before it waited, or with the one that the clock gives when it
is given the store. -/
theorem StoreCall.operation_reading {call : StoreCall} {lifetime : Duration}
    {earlier now reading : Instant}
    (h : (call.operation lifetime earlier now).reading? = some reading) :
    reading = earlier ∨ reading = now := by
  cases call with
  | find token => cases h
  | revoke token =>
      cases h
      exact .inr rfl
  | insert fresh context =>
      cases h
      exact .inl rfl
  | prolong token =>
      cases h
      exact .inl rfl
  | revokeExpired =>
      cases h
      exact .inl rfl
  | deleteExpiredFor span =>
      cases h
      exact .inl rfl

namespace ClockedStore

/-- What is true after every event: calls read the clock, the readings that they wait with are whole
seconds, and so are the times in the store. -/
structure IsInSeconds (s : ClockedStore) : Prop where
  now_eq : s.shared.now = s.clock.now
  waiting : ∀ waiting ∈ s.shared.waiting, waiting.reading.IsWhole
  store : s.shared.store.IsStampedInSeconds

theorem starting_isInSeconds (clock : ManualClock) (lifetime : Duration) :
    (starting clock lifetime).IsInSeconds where
  now_eq := rfl
  waiting := List.forall_mem_nil _
  store := Store.empty_isStampedInSeconds

theorem IsInSeconds.take {s : ClockedStore} (h : s.IsInSeconds) (event : Event) :
    (s.take event).IsInSeconds := by
  have hnow : s.shared.now.IsWhole := h.now_eq ▸ s.clock.isWhole
  cases event with
  | move m => exact ⟨rfl, h.waiting, h.store⟩
  | ask call =>
      refine ⟨h.now_eq, ?_, h.store⟩
      intro waiting hmem
      rcases List.mem_append.mp hmem with hold | hnew
      · exact h.waiting waiting hold
      · rw [List.mem_singleton.mp hnew]
        exact hnow
  | hold place =>
      simp only [ClockedStore.take, SharedStore.take]
      split
      next => exact h
      next waiting hwaiting =>
        refine ⟨h.now_eq, fun other hmem => h.waiting other (List.mem_of_mem_eraseIdx hmem), ?_⟩
        refine h.store.apply fun reading hreading => ?_
        rcases StoreCall.operation_reading hreading with rfl | rfl
        · exact h.waiting waiting (List.mem_of_getElem? hwaiting)
        · exact hnow

theorem IsInSeconds.run {s : ClockedStore} (h : s.IsInSeconds) (events : List Event) :
    (s.run events).IsInSeconds := by
  induction events generalizing s with
  | nil => exact h
  | cons event rest ih => exact ih (h.take event)

end ClockedStore

end SessionTokens
