import SessionTokens.Proofs.Store.Permanence

/-! # What operations make of a single record

Every operation acts on each token alone. What it leaves under a token depends on what was kept
there, on the operation and on nothing else that the store keeps; this holds of the sweeps as well,
which visit all records. So two stores that keep the same under some tokens go on doing so whatever
operation is made on both.
-/

namespace SessionTokens.Store

open Time

/-- What an operation makes of what is kept under a token. -/
def Operation.outcome (token : RefreshToken) (found : Option Record) :
    Operation → Option Record
  | .insert lifetime now fresh context =>
      if token = fresh then found.or (Record.issue fresh context now lifetime).toOption else found
  | .find _ => found
  | .revoke now presented =>
      if token = presented then
        found.map fun record => if record.isActive then record.revoke now else record
      else found
  | .prolong lifetime now presented =>
      if token = presented then
        found.map fun record =>
          if record.isActive && record.isExpiredAt now then
            { record with expiresAt := (now.add? lifetime).getD record.expiresAt }
          else record
      else found
  | .revokeExpired now =>
      found.map fun record => if isLapsed now record then record.revoke now else record
  | .deleteExpiredFor span now =>
      match now.sub? span with
      | none => found
      | some cutoff => found.filter fun record => !record.isOverdueAt cutoff

variable {store other : Store} {operation : Operation} {token : RefreshToken}

/-- Changing the record under a token where it stands is all that happens to the store. -/
theorem find?_replace_found {presented : RefreshToken} {record : Record}
    (hfound : store.find? presented = some record) (f : Record → Record) (token : RefreshToken) :
    (store.replace presented (f record)).find? token =
      if token = presented then (store.find? token).map f else store.find? token := by
  rw [find?_replace]
  split
  next heq => rw [heq, hfound, Option.map_some, Option.map_some]
  next => rfl

theorem map_found_eq_self {presented : RefreshToken} {f : Record → Record}
    (h : ∀ record, store.find? presented = some record → f record = record)
    (token : RefreshToken) :
    (if token = presented then (store.find? token).map f else store.find? token) =
      store.find? token := by
  split
  next heq =>
    subst heq
    cases hfound : store.find? token with
    | none => rfl
    | some record => rw [Option.map_some, h record hfound]
  next => rfl

theorem find?_insert_eq (store : Store) (lifetime : Duration) (now : Instant)
    (fresh : RefreshToken) (context : SecurityContext) (token : RefreshToken) :
    (store.insert lifetime now fresh context).2.find? token =
      (Operation.insert lifetime now fresh context).outcome token (store.find? token) := by
  simp only [Operation.outcome, insert]
  cases hissued : Record.issue fresh context now lifetime with
  | error cause => simp [Except.toOption]
  | ok record =>
      have htoken : record.token = fresh := (issue_eq_ok hissued).1
      simp only [Except.toOption]
      split
      next hfresh =>
        rw [find?_push, htoken]
        split
        next heq => rw [heq, ← htoken, hfresh, Option.none_or]
        next => rfl
      next hused =>
        -- the token is in use, so that the record that was issued is not kept
        obtain ⟨kept, hkept⟩ := Option.ne_none_iff_exists'.mp hused
        split
        next heq => rw [heq, ← htoken, hkept, Option.some_or]
        next => rfl

theorem find?_revoke_eq (store : Store) (now : Instant) (presented token : RefreshToken) :
    (store.revoke now presented).2.find? token =
      (Operation.revoke now presented).outcome token (store.find? token) := by
  simp only [Operation.outcome]
  cases hfound : store.find? presented with
  | none =>
      rw [(refused_of_unknown hfound .zero now).1, map_found_eq_self]
      intro record hrecord
      cases hfound.symm.trans hrecord
  | some record =>
      cases hactive : record.isActive with
      | true =>
          rw [← find?_replace_found hfound]
          simp only [revoke, hfound, hactive, if_true]
      | false =>
          rw [(refused_of_revoked hfound hactive .zero now).1, map_found_eq_self]
          intro kept hkept
          cases hfound.symm.trans hkept
          simp only [hactive, Bool.false_eq_true, if_false]

theorem find?_prolong_eq (store : Store) (lifetime : Duration) (now : Instant)
    (presented token : RefreshToken) :
    (store.prolong lifetime now presented).2.find? token =
      (Operation.prolong lifetime now presented).outcome token (store.find? token) := by
  simp only [Operation.outcome]
  cases hfound : store.find? presented with
  | none =>
      rw [(refused_of_unknown hfound lifetime now).2, map_found_eq_self]
      intro record hrecord
      cases hfound.symm.trans hrecord
  | some record =>
      -- each of the checks that fails leaves the store as it was
      by_cases hlapsed : (record.isActive && record.isExpiredAt now) = true
      · obtain ⟨hactive, hexpired⟩ := Bool.and_eq_true _ _ |>.mp hlapsed
        cases hexpiry : now.add? lifetime with
        | none =>
            rw [map_found_eq_self]
            · simp [prolong, hfound, hactive, hexpired, hexpiry]
            · intro kept hkept
              cases hfound.symm.trans hkept
              simp
        | some expiresAt =>
            rw [← find?_replace_found hfound]
            simp [prolong, hfound, hactive, hexpired, hexpiry]
      · rw [map_found_eq_self]
        · cases hactive : record.isActive with
          | false => rw [(refused_of_revoked hfound hactive lifetime now).2]
          | true =>
              have hnot : record.isExpiredAt now = false := by simpa [hactive] using hlapsed
              simp [prolong, hfound, hactive, hnot]
        · intro kept hkept
          cases hfound.symm.trans hkept
          rw [if_neg hlapsed]

theorem find?_apply (store : Store) (operation : Operation) (token : RefreshToken) :
    (store.apply operation).find? token = operation.outcome token (store.find? token) := by
  cases operation with
  | insert lifetime now fresh context =>
      exact store.find?_insert_eq lifetime now fresh context token
  | find presented => rfl
  | revoke now presented => exact store.find?_revoke_eq now presented token
  | prolong lifetime now presented => exact store.find?_prolong_eq lifetime now presented token
  | revokeExpired now => exact store.find?_mapRecords _ token
  | deleteExpiredFor span now =>
      simp only [apply, deleteExpiredFor, Operation.outcome]
      cases now.sub? span with
      | none => rfl
      | some cutoff => exact store.find?_filter_eq _ token

end SessionTokens.Store
