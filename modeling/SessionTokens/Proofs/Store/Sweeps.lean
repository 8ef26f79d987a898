import SessionTokens.Proofs.Store.Outcome
import SessionTokens.Service.Reaper

/-! # Sweeps that are made more than once

A sweep at the same reading of the clock finds nothing more to do. Deleting for several spans one
after the other deletes what the shortest of them deletes, and what is counted adds up.
-/

namespace SessionTokens.Store

open Time

variable {store : Store} {p q : Record → Bool} {now : Instant} {span : Duration}

theorem eq_of_rows_eq {store other : Store} (h : store.rows = other.rows) : store = other := by
  cases store
  cases other
  cases h
  rfl

theorem count_eq_countP (store : Store) (p : Record → Bool) :
    store.count p = store.rows.countP fun row => p row.2 := rfl

theorem rows_filter (store : Store) (p : Record → Bool) :
    (store.filter p).rows = store.rows.filter fun row => p row.2 := rfl

theorem filter_filter (store : Store) (p q : Record → Bool) :
    (store.filter p).filter q = store.filter fun record => p record && q record := by
  apply eq_of_rows_eq
  simp only [rows_filter, List.filter_filter, Bool.and_comm]

theorem filter_eq_self (h : ∀ token record, store.find? token = some record → p record = true) :
    store.filter p = store := by
  apply eq_of_rows_eq
  apply List.filter_eq_self.mpr
  intro row hrow
  exact h row.1 row.2 (find?_eq_some_iff.mpr hrow)

theorem count_filter (store : Store) (p q : Record → Bool) :
    (store.filter p).count q = store.count fun record => p record && q record := by
  simp only [count_eq_countP, rows_filter, List.countP_filter, Bool.and_comm]

theorem count_eq_zero (h : ∀ token record, store.find? token = some record → p record = false) :
    store.count p = 0 := by
  rw [count_eq_countP, List.countP_eq_zero]
  intro row hrow
  simp [h row.1 row.2 (find?_eq_some_iff.mpr hrow)]

/-- What satisfies one condition and what satisfies only the other one are counted apart. -/
theorem count_add (store : Store) (p q : Record → Bool) :
    store.count p + store.count (fun record => !p record && q record) =
      store.count fun record => p record || q record := by
  simp only [count_eq_countP]
  induction store.rows with
  | nil => rfl
  | cons row rows ih =>
      simp only [List.countP_cons, ← ih]
      cases p row.2 <;> cases q row.2 <;> simp <;> omega

/-! ## Revoking -/

theorem find?_revokeExpired (store : Store) (now : Instant) (token : RefreshToken) :
    (store.revokeExpired now).2.find? token =
      (store.find? token).map fun record =>
        if isLapsed now record then record.revoke now else record :=
  store.find?_mapRecords _ token

theorem isLapsed_eq_false_of_revokeExpired {token : RefreshToken} {record : Record}
    (h : (store.revokeExpired now).2.find? token = some record) : isLapsed now record = false := by
  rw [find?_revokeExpired] at h
  obtain ⟨old, -, rfl⟩ := Option.map_eq_some_iff.mp h
  cases hlapsed : isLapsed now old with
  | true => rfl
  | false => simpa using hlapsed

/-- Where nothing has lapsed, nothing is revoked. -/
theorem revokeExpired_eq_self
    (h : ∀ token record, store.find? token = some record → isLapsed now record = false) :
    store.revokeExpired now = (0, store) := by
  apply Prod.ext
  · exact count_eq_zero h
  · apply eq_of_rows_eq
    have hsame : (store.revokeExpired now).2.rows = store.rows.map id := by
      apply List.map_congr_left
      intro row hrow
      have hkept := h row.1 row.2 (find?_eq_some_iff.mpr hrow)
      simp only [hkept, Bool.false_eq_true, if_false, id_eq]
    rw [hsame, List.map_id]

/-- Revoking makes no difference to a count that does not look at revocations. -/
theorem count_revokeExpired (hp : ∀ record time, p (Record.revoke record time) = p record)
    (store : Store) (now : Instant) : (store.revokeExpired now).2.count p = store.count p := by
  show (store.rows.map _).countP _ = _
  rw [List.countP_map]
  apply List.countP_congr
  intro row _
  show p (if isLapsed now row.2 then row.2.revoke now else row.2) = true ↔ p row.2 = true
  split
  next => rw [hp]
  next => rfl

/-! ## Deleting -/

/-- Whether a record has been expired for a span. -/
def isPast (span : Duration) (now : Instant) (record : Record) : Bool :=
  decide (record.expiresAt.nanos ≤ now.nanos - span.nanos)

/-- A span of no negative length that reaches beyond the representable instants reaches beyond every
expiry. -/
theorem deleteExpiredFor_eq (store : Store) (hspan : 0 ≤ span.nanos) (now : Instant) :
    store.deleteExpiredFor span now =
      (store.count (isPast span now), store.filter fun record => !isPast span now record) := by
  unfold deleteExpiredFor
  cases hcutoff : now.sub? span with
  | none =>
      have hearly : now.nanos - span.nanos < -8334601228800000000000 := by
        have hout : ¬ (-8334601228800000000000 ≤ now.nanos - span.nanos ∧
            now.nanos - span.nanos ≤ 8210266876799999999999) := by
          intro hin
          simp [Instant.sub?, Instant.ofNanos?, hin] at hcutoff
        have hlatest := now.le_latest
        omega
      have hnone : ∀ record, isPast span now record = false := by
        intro record
        have hearliest := record.expiresAt.earliest_le
        exact decide_eq_false (by omega)
      rw [count_eq_zero fun _ record _ => hnone record,
        filter_eq_self fun _ record _ => by rw [hnone record]; rfl]
  | some cutoff =>
      have hsame : (fun record : Record => record.isOverdueAt cutoff) = isPast span now := by
        funext record
        simp only [Record.isOverdueAt, isPast, Instant.le_def, Instant.sub?_eq_some.mp hcutoff]
      simp only [← hsame]

theorem isPast_of_le {shorter : Duration} (hle : shorter ≤ span) {record : Record}
    (h : isPast span now record = true) : isPast shorter now record = true := by
  have hspan : shorter.nanos ≤ span.nanos := hle
  have hpast := of_decide_eq_true h
  exact decide_eq_true (by omega)

/-! ## A cycle -/

theorem reap_eq (store : Store) (hspan : 0 ≤ span.nanos) (now : Instant) :
    store.reap span now =
      (⟨(store.revokeExpired now).1, (store.revokeExpired now).2.count (isPast span now), []⟩,
        (store.revokeExpired now).2.filter fun record => !isPast span now record) := by
  simp only [reap, deleteExpiredFor_eq _ hspan]
  rfl

theorem find?_reap (store : Store) (hspan : 0 ≤ span.nanos) (now : Instant)
    (token : RefreshToken) :
    (store.reap span now).2.find? token =
      ((store.revokeExpired now).2.find? token).filter fun record => !isPast span now record := by
  rw [reap_eq store hspan, find?_filter_eq]

/-- What does not expire until later is left as it is. -/
theorem find?_reap_of_lt {token : RefreshToken} (hspan : 0 ≤ span.nanos)
    (hleft : ∀ record, store.find? token = some record → now < record.expiresAt) :
    (store.reap span now).2.find? token = store.find? token := by
  rw [find?_reap store hspan, find?_revokeExpired]
  cases hfound : store.find? token with
  | none => rfl
  | some record =>
      have hlt := Instant.lt_def.mp (hleft record hfound)
      have hunlapsed : isLapsed now record = false := by
        have hnotoverdue : record.isOverdueAt now = false := by
          apply decide_eq_false
          rw [Instant.le_def]
          omega
        rw [isLapsed, hnotoverdue, Bool.and_false]
      have hunpast : isPast span now record = false := decide_eq_false (by omega)
      simp [hunlapsed, hunpast]

/-- What has expired by then is not left active. -/
theorem isActive_eq_false_of_reap {token : RefreshToken} {record kept : Record}
    (hspan : 0 ≤ span.nanos) (hfound : store.find? token = some record)
    (hexpired : record.expiresAt ≤ now)
    (hkept : (store.reap span now).2.find? token = some kept) : kept.isActive = false := by
  rw [find?_reap store hspan, find?_revokeExpired, hfound] at hkept
  obtain ⟨hleft, -⟩ := Option.filter_eq_some_iff.mp hkept
  simp only [Option.map_some, Option.some.injEq] at hleft
  have hoverdue : record.isOverdueAt now = true := decide_eq_true hexpired
  rw [isLapsed, hoverdue, Bool.and_true] at hleft
  subst hleft
  split
  next => rfl
  next hinactive => exact Bool.eq_false_iff.mpr hinactive

end SessionTokens.Store
