import SessionTokens.Store.Operation

/-! # Looking up what the store operations leave

Every operation is described by what it leaves under each token. Only inserting brings a record
under a token that had none, and it brings it under the fresh token. Only an active record is
changed, and only a deletion takes one away. So no operation makes a revoked record active again.
-/

namespace SessionTokens

open Time

namespace Store

/-- Each token has one row, which is the one that is found. -/
theorem find?_eq_some_iff {store : Store} {token : RefreshToken} {record : Record} :
    store.find? token = some record ↔ (token, record) ∈ store.rows := by
  obtain ⟨rows, hnodup⟩ := store
  simp only [find?]
  induction rows with
  | nil => simp
  | cons row rows ih =>
      obtain ⟨key, kept⟩ := row
      rw [List.map_cons, List.nodup_cons] at hnodup
      rw [List.lookup_cons, List.mem_cons]
      by_cases hkey : token = key
      · -- the first row of a token is its only one
        subst hkey
        have habsent : (token, record) ∉ rows := fun hmem =>
          hnodup.1 (List.mem_map.mpr ⟨_, hmem, rfl⟩)
        simp [habsent, eq_comm]
      · have hne : (token == key) = false := beq_eq_false_iff_ne.mpr hkey
        simp only [hne, Prod.mk.injEq, hkey, false_and, false_or]
        exact ih hnodup.2

theorem find?_mapRecords (store : Store) (f : RefreshToken → Record → Record)
    (token : RefreshToken) :
    (store.mapRecords f).find? token = (store.find? token).map (f token) := by
  obtain ⟨rows, hnodup⟩ := store
  simp only [find?, mapRecords]
  clear hnodup
  induction rows with
  | nil => rfl
  | cons row rows ih =>
      obtain ⟨key, record⟩ := row
      rw [List.map_cons, List.lookup_cons, List.lookup_cons]
      cases heq : token == key with
      | true =>
          rw [eq_of_beq heq]
          rfl
      | false => exact ih

theorem find?_replace (store : Store) (token other : RefreshToken) (record : Record) :
    (store.replace token record).find? other =
      if other = token then (store.find? token).map fun _ => record else store.find? other := by
  rw [replace, find?_mapRecords]
  by_cases h : other = token
  · simp [h]
  · simp [h]

theorem find?_replace_self {store : Store} {token : RefreshToken} {old : Record}
    (hold : store.find? token = some old) (record : Record) :
    (store.replace token record).find? token = some record := by
  rw [find?_replace, if_pos rfl, hold, Option.map_some]

theorem find?_push (store : Store) (record : Record) (fresh : store.find? record.token = none)
    (token : RefreshToken) :
    (store.push record fresh).find? token =
      if token = record.token then some record else store.find? token := by
  unfold find? push at *
  rw [List.lookup_append, List.lookup_cons]
  by_cases h : token = record.token
  · rw [h, fresh]
    simp
  · have hne : (token == record.token) = false := beq_eq_false_iff_ne.mpr h
    simp [hne, h]

theorem find?_filter {store : Store} {keep : Record → Bool} {token : RefreshToken}
    {record : Record} :
    (store.filter keep).find? token = some record ↔
      store.find? token = some record ∧ keep record = true := by
  rw [find?_eq_some_iff, find?_eq_some_iff]
  exact List.mem_filter

theorem find?_filter_eq (store : Store) (keep : Record → Bool) (token : RefreshToken) :
    (store.filter keep).find? token = (store.find? token).filter keep := by
  ext record
  rw [find?_filter, Option.filter_eq_some_iff]

/-! ## Operations -/

/-- A revocation succeeds on an active record and fails on every other token. -/
theorem revoke_cases (store : Store) (now : Instant) (token : RefreshToken) :
    (∃ record, store.find? token = some record ∧ record.isActive = true ∧
      store.revoke now token =
        (.ok (record.revoke now), store.replace token (record.revoke now))) ∨
    (∃ cause, (cause = .invalid ∨ cause = .alreadyRevoked) ∧
      store.revoke now token = (.error (.refreshToken cause), store)) := by
  unfold revoke
  cases hfound : store.find? token with
  | none => exact .inr ⟨.invalid, .inl rfl, rfl⟩
  | some record =>
      by_cases hactive : record.isActive = true
      · simp only [hactive, if_true]
        exact .inl ⟨record, rfl, hactive, rfl⟩
      · simp only [hactive]
        exact .inr ⟨.alreadyRevoked, .inr rfl, rfl⟩

/-- What an operation can leave under a token where there was a record or none. -/
inductive Operation.Leaves (operation : Operation) (token : RefreshToken) :
    Option Record → Option Record → Prop
  | kept (found : Option Record) : Leaves operation token found found
  | issued {lifetime : Duration} {now : Instant} {context : SecurityContext} {record : Record} :
      operation = .insert lifetime now token context →
        Record.issue token context now lifetime = .ok record →
          Leaves operation token none (some record)
  | prolonged {lifetime : Duration} {now expiresAt : Instant} {record : Record} :
      operation = .prolong lifetime now token → record.isActive = true →
        Leaves operation token (some record) (some { record with expiresAt })
  | revoked {now : Instant} {record : Record} :
      operation = .revoke now token ∨ operation = .revokeExpired now → record.isActive = true →
        Leaves operation token (some record) (some (record.revoke now))
  | deleted {span : Duration} {now : Instant} {record : Record} :
      operation = .deleteExpiredFor span now →
        record.expiresAt.nanos ≤ now.nanos - span.nanos → Leaves operation token (some record) none

/-- A record that was issued is active, under the token and for the context it was issued for. -/
theorem issue_eq_ok {token : RefreshToken} {context : SecurityContext} {now : Instant}
    {lifetime : Duration} {record : Record}
    (h : Record.issue token context now lifetime = .ok record) :
    record.token = token ∧ record.context = context ∧ record.isActive = true := by
  unfold Record.issue at h
  split at h
  next => cases h
  next =>
    cases h
    exact ⟨rfl, rfl, rfl⟩

/-- An insertion adds the record that it issues, or it changes nothing. -/
theorem insert_cases (store : Store) (lifetime : Duration) (now : Instant) (fresh : RefreshToken)
    (context : SecurityContext) :
    (∃ record, ∃ hfresh : store.find? record.token = none,
      Record.issue fresh context now lifetime = .ok record ∧
        store.insert lifetime now fresh context = (.ok record, store.push record hfresh)) ∨
    (∃ failure, store.insert lifetime now fresh context = (.error failure, store)) := by
  unfold insert
  split
  next => exact .inr ⟨_, rfl⟩
  next record hissued =>
    split
    next hfresh => exact .inl ⟨record, hfresh, hissued, rfl⟩
    next => exact .inr ⟨_, rfl⟩

/-- Replacing a record leaves under every token what the new record is to the old one. -/
theorem leaves_replace {operation : Operation} {store : Store} {token : RefreshToken}
    {old record : Record} (hold : store.find? token = some old)
    (h : operation.Leaves token (some old) (some record)) (other : RefreshToken) :
    operation.Leaves other (store.find? other) ((store.replace token record).find? other) := by
  rw [find?_replace]
  split
  next heq =>
    rw [heq, hold]
    exact h
  next => exact .kept _

theorem apply_leaves (store : Store) (operation : Operation) (token : RefreshToken) :
    operation.Leaves token (store.find? token) ((store.apply operation).find? token) := by
  cases operation with
  | insert lifetime now fresh context =>
      simp only [apply]
      rcases store.insert_cases lifetime now fresh context with
        ⟨record, hfresh, hissued, heq⟩ | ⟨failure, heq⟩
      · rw [heq, find?_push]
        split
        next htoken =>
          rw [htoken, hfresh, (issue_eq_ok hissued).1]
          exact .issued rfl hissued
        next => exact .kept _
      · rw [heq]
        exact .kept _
  | find other => exact .kept _
  | revoke now other =>
      simp only [apply]
      rcases store.revoke_cases now other with ⟨record, hfound, hactive, heq⟩ | ⟨cause, -, heq⟩
      · rw [heq]
        exact leaves_replace hfound (.revoked (.inl rfl) hactive) token
      · rw [heq]
        exact .kept _
  | prolong lifetime now other =>
      simp only [apply, prolong]
      split
      next => exact .kept _
      next record hfound =>
        split
        next => exact .kept _
        next hactive =>
          split
          next => exact .kept _
          next =>
            split
            next => exact .kept _
            next =>
              refine leaves_replace hfound (.prolonged rfl ?_) token
              simpa using hactive
  | revokeExpired now =>
      simp only [apply, revokeExpired, find?_mapRecords]
      cases store.find? token with
      | none => exact .kept _
      | some record =>
          simp only [Option.map_some]
          split
          next hlapsed =>
            exact .revoked (.inr rfl) (Bool.and_eq_true _ _ |>.mp hlapsed).1
          next => exact .kept _
  | deleteExpiredFor span now =>
      simp only [apply, deleteExpiredFor]
      split
      next => exact .kept _
      next cutoff hcutoff =>
        rw [find?_filter_eq]
        cases store.find? token with
        | none => exact .kept _
        | some record =>
            by_cases hoverdue : record.isOverdueAt cutoff = true
            · simp only [Option.filter, hoverdue]
              refine .deleted rfl ?_
              rw [← Instant.sub?_eq_some.mp hcutoff]
              exact of_decide_eq_true hoverdue
            · simp only [Option.filter, hoverdue]
              exact .kept _

/-- Inserting leaves what is kept under every other token. -/
theorem find?_insert {store : Store} {lifetime : Duration} {now : Instant} {fresh : RefreshToken}
    {context : SecurityContext} {token : RefreshToken} (h : token ≠ fresh) :
    (store.insert lifetime now fresh context).2.find? token = store.find? token := by
  have hleaves := store.apply_leaves (.insert lifetime now fresh context) token
  simp only [apply] at hleaves
  generalize (store.insert lifetime now fresh context).2.find? token = left at hleaves ⊢
  generalize store.find? token = found at hleaves ⊢
  cases hleaves with
  | kept => rfl
  | issued hoperation _ =>
      cases hoperation
      exact absurd rfl h
  | prolonged hoperation _ => cases hoperation
  | revoked hoperation _ => rcases hoperation with h | h <;> cases h
  | deleted hoperation _ => cases hoperation

/-- Under a fresh token, inserting fails only if the expiry is not representable. -/
theorem insert_eq_error {store : Store} {lifetime : Duration} {now : Instant}
    {fresh : RefreshToken} {context : SecurityContext} {failure : DomainError}
    (hfresh : store.find? fresh = none)
    (h : (store.insert lifetime now fresh context).1 = .error failure) :
    failure = .token .generationFailed := by
  unfold insert Record.issue at h
  cases hexpiry : now.add? lifetime with
  | none =>
      simp only [hexpiry] at h
      cases h
      rfl
  | some expiresAt =>
      simp only [hexpiry, hfresh, dif_pos] at h
      cases h

/-- Every record was kept before, for the same context, and no revoked one is active again. -/
def Keeps (before after : Store) : Prop :=
  ∀ token kept, after.find? token = some kept →
    ∃ record, before.find? token = some record ∧ kept.context = record.context ∧
      (kept.isActive = true → record.isActive = true)

theorem keeps_refl (store : Store) : store.Keeps store :=
  fun _ kept h => ⟨kept, h, rfl, id⟩

/-- What issues no record keeps only what there was. -/
theorem apply_keeps (store : Store) (operation : Operation) (h : operation.drawn? = none) :
    store.Keeps (store.apply operation) := by
  intro token kept hkept
  have hleaves := store.apply_leaves operation token
  rw [hkept] at hleaves
  generalize store.find? token = found at hleaves ⊢
  cases hleaves with
  | kept => exact ⟨kept, rfl, rfl, id⟩
  | issued hoperation _ =>
      rw [hoperation] at h
      cases h
  | prolonged _ hactive => exact ⟨_, rfl, rfl, fun _ => hactive⟩
  | revoked _ hactive => exact ⟨_, rfl, rfl, fun _ => hactive⟩

theorem Keeps.not_active {before after : Store} (h : before.Keeps after) {token : RefreshToken}
    (hinactive : ∀ record, before.find? token = some record → record.isActive = false) :
    ∀ record, after.find? token = some record → record.isActive = false := by
  intro kept hkept
  obtain ⟨record, hrecord, -, hactive⟩ := h token kept hkept
  apply Bool.eq_false_iff.mpr
  intro hkeptActive
  rw [hinactive record hrecord] at hactive
  cases hactive hkeptActive

theorem Keeps.find?_eq_none {before after : Store} (h : before.Keeps after) {token : RefreshToken}
    (hnone : before.find? token = none) : after.find? token = none := by
  apply Option.eq_none_iff_forall_ne_some.mpr
  intro kept hkept
  obtain ⟨record, hrecord, -⟩ := h token kept hkept
  cases hnone.symm.trans hrecord

end Store

end SessionTokens
