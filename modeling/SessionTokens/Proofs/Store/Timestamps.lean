import SessionTokens.Proofs.Store.Outcome
import SessionTokens.Store.Sharing

/-! # The times in a record are in order

Calls may be given a store long after they have read the clock, and other calls change the same
records in between. The times that they leave are in order nevertheless, as long as the clock is
never moved back. What carries this is that no call has a reading that is later than the clock: a
record is issued no later than now, a sweep revokes only what has expired by its own reading, and so
nothing that was issued after that, and a prolongation moves an expiry only forward.
-/

namespace SessionTokens

open Time

/-- A record is kept under its own token, and its times are in order: it expires no earlier than it
was issued, and if it was revoked, then between its issue and now. -/
structure RecordOver.IsInOrder (record : Record) (token : RefreshToken) (now : Instant) : Prop where
  token_eq : record.token = token
  issued_le_now : record.issuedAt ≤ now
  issued_le_expires : record.issuedAt ≤ record.expiresAt
  revoked : ∀ time, record.revokedAt = some time → record.issuedAt ≤ time ∧ time ≤ now

namespace RecordOver.IsInOrder

variable {record : Record} {token : RefreshToken} {reading now : Instant} {lifetime : Duration}

theorem wait (h : record.IsInOrder token now) {later : Instant} (hle : now ≤ later) :
    record.IsInOrder token later where
  token_eq := h.token_eq
  issued_le_now := Int.le_trans h.issued_le_now hle
  issued_le_expires := h.issued_le_expires
  revoked time htime := ⟨(h.revoked time htime).1, Int.le_trans (h.revoked time htime).2 hle⟩

theorem issue {context : SecurityContext} (hlifetime : 0 ≤ lifetime.nanos)
    (hreading : reading ≤ now)
    (hissued : Record.issue token context reading lifetime = .ok record) :
    record.IsInOrder token now := by
  unfold Record.issue at hissued
  split at hissued
  next => cases hissued
  next expiresAt hexpiry =>
    cases hissued
    have hsum : expiresAt.nanos = reading.nanos + lifetime.nanos := Instant.add?_eq_some.mp hexpiry
    have hexpires : reading.nanos ≤ expiresAt.nanos := by omega
    refine ⟨rfl, hreading, hexpires, ?_⟩
    intro time htime
    cases htime

theorem revoke (h : record.IsInOrder token now) {time : Instant} (hissued : record.issuedAt ≤ time)
    (htime : time ≤ now) : (Record.revoke record time).IsInOrder token now where
  token_eq := h.token_eq
  issued_le_now := h.issued_le_now
  issued_le_expires := h.issued_le_expires
  revoked other hother := by
    cases hother
    exact ⟨hissued, htime⟩

/-- A record that has expired by a reading is prolonged beyond that reading. -/
theorem prolong (h : record.IsInOrder token now) (hlifetime : 0 ≤ lifetime.nanos)
    (hexpired : record.expiresAt < reading) :
    ({ record with expiresAt := (reading.add? lifetime).getD record.expiresAt } : Record).IsInOrder
      token now where
  token_eq := h.token_eq
  issued_le_now := h.issued_le_now
  issued_le_expires := by
    cases hexpiry : reading.add? lifetime with
    | none => exact h.issued_le_expires
    | some expiresAt =>
        have hsum : expiresAt.nanos = reading.nanos + lifetime.nanos :=
          Instant.add?_eq_some.mp hexpiry
        have hissued := Instant.le_def.mp h.issued_le_expires
        have hlt := Instant.lt_def.mp hexpired
        show record.issuedAt.nanos ≤ expiresAt.nanos
        omega
  revoked := h.revoked

end RecordOver.IsInOrder

/-- A call that took its reading no later than now leaves a record in order where there was one, or
none. -/
theorem StoreCall.outcome_isInOrder {lifetime : Duration} (hlifetime : 0 ≤ lifetime.nanos)
    {reading now : Instant} (hreading : reading ≤ now) (call : StoreCall) {token : RefreshToken}
    {found : Option Record} (hfound : ∀ record, found = some record → record.IsInOrder token now)
    {record : Record}
    (h : (call.operation lifetime reading now).outcome token found = some record) :
    record.IsInOrder token now := by
  cases call with
  | insert fresh context =>
      simp only [operation, Store.Operation.outcome] at h
      split at h
      next heq =>
        subst heq
        rcases Option.or_eq_some_iff.mp h with hkept | ⟨-, hissued⟩
        · exact hfound record hkept
        · apply RecordOver.IsInOrder.issue hlifetime hreading
          cases hresult : Record.issue token context reading lifetime with
          | error cause =>
              rw [hresult] at hissued
              cases hissued
          | ok issued =>
              rw [hresult] at hissued
              cases hissued
              rfl
      next => exact hfound record h
  | find presented => exact hfound record h
  | revoke presented =>
      simp only [operation, Store.Operation.outcome] at h
      split at h
      next =>
        obtain ⟨old, hold, rfl⟩ := Option.map_eq_some_iff.mp h
        have horder := hfound old hold
        split
        next => exact horder.revoke horder.issued_le_now (Int.le_refl _)
        next => exact horder
      next => exact hfound record h
  | prolong presented =>
      simp only [operation, Store.Operation.outcome] at h
      split at h
      next =>
        obtain ⟨old, hold, rfl⟩ := Option.map_eq_some_iff.mp h
        split
        next hlapsed =>
          have hexpired := (Bool.and_eq_true _ _ |>.mp hlapsed).2
          exact (hfound old hold).prolong hlifetime (of_decide_eq_true hexpired)
        next => exact hfound old hold
      next => exact hfound record h
  | revokeExpired =>
      obtain ⟨old, hold, rfl⟩ := Option.map_eq_some_iff.mp h
      have horder := hfound old hold
      split
      next hlapsed =>
        -- what has expired by the reading was issued by then, however late the sweep is made
        have hoverdue := (Bool.and_eq_true _ _ |>.mp hlapsed).2
        have hissued : old.issuedAt ≤ reading :=
          Int.le_trans horder.issued_le_expires (of_decide_eq_true hoverdue)
        exact horder.revoke hissued hreading
      next => exact horder
  | deleteExpiredFor span =>
      simp only [operation, Store.Operation.outcome] at h
      split at h
      next => exact hfound record h
      next => exact hfound record (Option.filter_eq_some_iff.mp h).1

namespace SharedStore

/-- What is true at every turn: no waiting call has a reading from later than now, and every record
is in order. -/
structure IsInOrder (s : SharedStore) : Prop where
  waiting : ∀ waiting ∈ s.waiting, waiting.reading ≤ s.now
  records : ∀ token record, s.store.find? token = some record → record.IsInOrder token s.now

theorem IsInOrder.take {s : SharedStore} (h : s.IsInOrder) (hlifetime : 0 ≤ s.lifetime.nanos)
    (turn : Turn) (hclock : s.now ≤ (s.take turn).now) : (s.take turn).IsInOrder := by
  cases turn with
  | showTime time =>
      constructor
      · intro waiting hmem
        exact Int.le_trans (h.waiting waiting hmem) hclock
      · intro token record hfound
        exact (h.records token record hfound).wait hclock
  | ask call =>
      refine ⟨?_, h.records⟩
      intro waiting hmem
      rcases List.mem_append.mp hmem with hold | hnew
      · exact h.waiting waiting hold
      · cases List.mem_singleton.mp hnew
        exact Int.le_refl _
  | hold place =>
      simp only [SharedStore.take]
      split
      next => exact h
      next waiting hwaiting =>
        have hreading := h.waiting waiting (List.mem_of_getElem? hwaiting)
        constructor
        · intro other hmem
          exact h.waiting other (List.mem_of_mem_eraseIdx hmem)
        · intro token record hfound
          rw [Store.find?_apply] at hfound
          exact waiting.call.outcome_isInOrder hlifetime hreading (h.records token) hfound

theorem take_lifetime (s : SharedStore) (turn : Turn) : (s.take turn).lifetime = s.lifetime := by
  cases turn with
  | showTime => rfl
  | ask => rfl
  | hold place =>
      simp only [take]
      split <;> rfl

theorem IsInOrder.run {s : SharedStore} (h : s.IsInOrder) (hlifetime : 0 ≤ s.lifetime.nanos)
    {turns : List Turn} (hclock : s.KeepsTime turns) : (s.run turns).IsInOrder := by
  induction turns generalizing s with
  | nil => exact h
  | cons turn rest ih =>
      have hnext : 0 ≤ (s.take turn).lifetime.nanos := by rwa [take_lifetime]
      exact ih (h.take hlifetime turn hclock.1) hnext hclock.2

/-- In whatever order calls read the clock and are given a store that began without records, every
record is kept under its own token, expires no earlier than it was issued, and was revoked, if at
all, between its issue and now. The clock is never moved back, and records do not expire before they
are issued. -/
theorem run_isInOrder (lifetime : Duration) (start : Instant) (turns : List Turn)
    (hlifetime : 0 ≤ lifetime.nanos) (hclock : KeepsTime { lifetime, now := start } turns) :
    (run { lifetime, now := start } turns).IsInOrder := by
  have hstart : IsInOrder { lifetime, now := start } := by
    constructor
    · intro waiting hmem
      cases hmem
    · intro token record hfound
      cases hfound
  exact hstart.run hlifetime hclock

/-- A sweep and a prolongation read the clock and then wait, while one token is revoked and another
one is issued. The sweep comes last. -/
theorem late_sweep_isInOrder :
    let holder : SecurityContext := ⟨⟨7, by decide, by decide⟩, .user⟩
    let at90 : Instant := ⟨90000000000, by decide, by decide⟩
    let at95 : Instant := ⟨95000000000, by decide, by decide⟩
    let turns : List Turn := [.ask (.insert ⟨"a"⟩ holder), .ask (.insert ⟨"b"⟩ holder), .hold 1,
      .hold 0, .showTime at90, .ask .revokeExpired, .ask (.prolong ⟨"b"⟩), .ask (.revoke ⟨"b"⟩),
      .showTime at95, .hold 2, .ask (.insert ⟨"c"⟩ holder), .hold 1, .hold 1, .hold 0]
    0 ≤ (Duration.ofSeconds 60).nanos ∧
      KeepsTime { lifetime := .ofSeconds 60, now := .epoch } turns ∧
      (run { lifetime := .ofSeconds 60, now := .epoch } turns).IsInOrder := by
  intro holder at90 at95 turns
  have hlifetime : 0 ≤ (Duration.ofSeconds 60).nanos := by decide
  have hclock : KeepsTime { lifetime := .ofSeconds 60, now := .epoch } turns := by decide
  exact ⟨hlifetime, hclock, run_isInOrder (.ofSeconds 60) .epoch turns hlifetime hclock⟩

/-- The sweep revokes the token that had lapsed by its reading, and not the one issued after it. -/
example :
    let holder : SecurityContext := ⟨⟨7, by decide, by decide⟩, .user⟩
    let at90 : Instant := ⟨90000000000, by decide, by decide⟩
    let at95 : Instant := ⟨95000000000, by decide, by decide⟩
    let s := run { lifetime := .ofSeconds 60, now := .epoch } [.ask (.insert ⟨"a"⟩ holder), .hold 0,
      .showTime at90, .ask .revokeExpired, .showTime at95, .ask (.insert ⟨"c"⟩ holder), .hold 1,
      .hold 0]
    (s.store.find? ⟨"a"⟩).bind (·.revokedAt) = some at90 ∧
      (s.store.find? ⟨"c"⟩).map (·.isActive) = some true := by
  decide

end SharedStore

end SessionTokens
