import SessionTokens.Proofs.Store

/-! # Revocation is permanent

A run may revoke, prolong, sweep and delete in any order and at any readings of the clock. What is
said here of a run is carried from each of its operations to the next: an operation leaves a revoked
record as it is or deletes it, and it deletes only what has expired for long enough. A token that
has no record and is not drawn again never has one.
-/

namespace SessionTokens.Store

open Time

/-! ## One operation -/

theorem Operation.Leaves.of_revoked {operation : Operation} {token : RefreshToken}
    {record : Record} {left : Option Record} (h : operation.Leaves token (some record) left)
    (hrevoked : record.isActive = false) : left = some record ∨ left = none := by
  cases h with
  | kept => exact .inl rfl
  | prolonged _ hactive =>
      rw [hrevoked] at hactive
      cases hactive
  | revoked _ hactive =>
      rw [hrevoked] at hactive
      cases hactive
  | deleted => exact .inr rfl

theorem Operation.Leaves.of_none {operation : Operation} {token : RefreshToken}
    {left : Option Record} (h : operation.Leaves token none left)
    (hdrawn : operation.drawn? ≠ some token) : left = none := by
  cases h with
  | kept => rfl
  | issued hoperation _ =>
      rw [hoperation] at hdrawn
      exact absurd rfl hdrawn

theorem Operation.Leaves.deletes {operation : Operation} {token : RefreshToken} {record : Record}
    (h : operation.Leaves token (some record) none) :
    ∃ span now, operation = .deleteExpiredFor span now ∧
      record.expiresAt.nanos ≤ now.nanos - span.nanos := by
  cases h with
  | deleted hoperation hexpired => exact ⟨_, _, hoperation, hexpired⟩

/-! ## Runs -/

variable {store : Store} {token : RefreshToken} {operations : List Operation}

theorem drawn_cons_not_mem {operation : Operation} {rest : List Operation}
    (h : token ∉ drawn (operation :: rest)) :
    operation.drawn? ≠ some token ∧ token ∉ drawn rest := by
  have hsplit : drawn (operation :: rest) = drawn [operation] ++ drawn rest :=
    drawn_append [operation] rest
  rw [hsplit, List.mem_append, not_or] at h
  refine ⟨?_, h.2⟩
  intro heq
  exact h.1 (by simp [drawn, heq])

/-- A token without a record that is not drawn has none at the end either. -/
theorem run_find?_eq_none (hnone : store.find? token = none) (hdrawn : token ∉ drawn operations) :
    (store.run operations).find? token = none := by
  induction operations generalizing store with
  | nil => exact hnone
  | cons operation rest ih =>
      obtain ⟨hfirst, hrest⟩ := drawn_cons_not_mem hdrawn
      have hleaves := store.apply_leaves operation token
      rw [hnone] at hleaves
      exact ih (hleaves.of_none hfirst) hrest

/-- In a run from the store without records only tokens that were drawn have a record. -/
theorem mem_drawn_of_find? {record : Record}
    (h : (empty.run operations).find? token = some record) : token ∈ drawn operations := by
  refine Decidable.byContradiction fun hdrawn => ?_
  have hnone : (empty.run operations).find? token = none := run_find?_eq_none rfl hdrawn
  rw [hnone] at h
  cases h

/-- A revoked record is there unchanged at the end, or it is gone. -/
theorem run_of_revoked {record : Record} (hfound : store.find? token = some record)
    (hrevoked : record.isActive = false) (hdrawn : token ∉ drawn operations) :
    (store.run operations).find? token = some record ∨
      (store.run operations).find? token = none := by
  induction operations generalizing store with
  | nil => exact .inl hfound
  | cons operation rest ih =>
      obtain ⟨-, hrest⟩ := drawn_cons_not_mem hdrawn
      have hleaves := store.apply_leaves operation token
      rw [hfound] at hleaves
      rcases hleaves.of_revoked hrevoked with hkept | hgone
      · exact ih hkept hrest
      · right
        rw [run_cons]
        exact run_find?_eq_none hgone hrest

/-- A record that is gone at the end was deleted at some point by an operation that read the clock
late enough. -/
theorem run_deletes {record : Record} (hfound : store.find? token = some record)
    (hgone : (store.run operations).find? token = none) :
    ∃ before span now after kept, operations = before ++ .deleteExpiredFor span now :: after ∧
      (store.run before).find? token = some kept ∧
        kept.expiresAt.nanos ≤ now.nanos - span.nanos := by
  induction operations generalizing store record with
  | nil =>
      rw [run_nil, hfound] at hgone
      cases hgone
  | cons operation rest ih =>
      have hleaves := store.apply_leaves operation token
      rw [hfound] at hleaves
      cases hleft : (store.apply operation).find? token with
      | none =>
          rw [hleft] at hleaves
          obtain ⟨span, now, rfl, hexpired⟩ := hleaves.deletes
          exact ⟨[], span, now, rest, record, rfl, hfound, hexpired⟩
      | some left =>
          obtain ⟨before, span, now, after, kept, rfl, hkept, hexpired⟩ := ih hleft hgone
          exact ⟨operation :: before, span, now, after, kept, rfl, hkept, hexpired⟩

/-! ## What calls are answered -/

theorem refused_of_revoked {record : Record} (hfound : store.find? token = some record)
    (hrevoked : record.isActive = false) (lifetime : Duration) (now : Instant) :
    store.revoke now token = (.error (.refreshToken .alreadyRevoked), store) ∧
      store.prolong lifetime now token = (.error (.refreshToken .alreadyRevoked), store) := by
  simp only [revoke, prolong, hfound, hrevoked, Bool.not_false, Bool.false_eq_true, if_true,
    if_false, and_self]

theorem refused_of_unknown (hnone : store.find? token = none) (lifetime : Duration)
    (now : Instant) :
    store.revoke now token = (.error (.refreshToken .invalid), store) ∧
      store.prolong lifetime now token = (.error (.refreshToken .invalid), store) := by
  simp only [revoke, prolong, hnone, and_self]

/-- What becomes of the records that some operations have left, whatever operations follow. -/
structure IsPermanent (earlier later : List Operation) : Prop where
  /-- A revoked record is there unchanged, or it is gone. -/
  unchanged : ∀ token record time, (empty.run earlier).find? token = some record →
    record.revokedAt = some time →
      (empty.run (earlier ++ later)).find? token = some record ∨
        (empty.run (earlier ++ later)).find? token = none
  /-- A record is gone only by a deletion that read the clock when the record had been expired for
  the span of the deletion. -/
  deleted : ∀ token record, (empty.run earlier).find? token = some record →
    (empty.run (earlier ++ later)).find? token = none →
      ∃ before span now after kept, later = before ++ .deleteExpiredFor span now :: after ∧
        (empty.run (earlier ++ before)).find? token = some kept ∧
          kept.expiresAt.nanos ≤ now.nanos - span.nanos
  /-- While a revoked record is there, revoking and prolonging it is refused for that reason. -/
  already_revoked : ∀ token record time, (empty.run earlier).find? token = some record →
    record.revokedAt = some time → ∀ lifetime now,
      (empty.run earlier).revoke now token =
          (.error (.refreshToken .alreadyRevoked), empty.run earlier) ∧
        (empty.run earlier).prolong lifetime now token =
          (.error (.refreshToken .alreadyRevoked), empty.run earlier)
  /-- Once a record is gone, its token is invalid for ever. -/
  invalid : ∀ token record, (empty.run earlier).find? token = some record →
    ∀ before after, later = before ++ after →
      (empty.run (earlier ++ before)).find? token = none → ∀ lifetime now,
        (empty.run (earlier ++ later)).revoke now token =
            (.error (.refreshToken .invalid), empty.run (earlier ++ later)) ∧
          (empty.run (earlier ++ later)).prolong lifetime now token =
            (.error (.refreshToken .invalid), empty.run (earlier ++ later))

theorem isActive_eq_false {record : Record} {time : Instant} (h : record.revokedAt = some time) :
    record.isActive = false := by
  rw [RecordOver.isActive, h]
  rfl

/-- Where tokens are drawn without repetition, revocation is permanent in every run of the
operations of a store, at whatever readings of the clock. -/
theorem run_isPermanent (earlier later : List Operation)
    (hdrawn : (drawn (earlier ++ later)).Nodup) : IsPermanent earlier later := by
  rw [drawn_append, List.nodup_append] at hdrawn
  -- a token that has a record was drawn before, and is not drawn again
  have hold : ∀ token record, (empty.run earlier).find? token = some record →
      token ∉ drawn later := by
    intro token record hfound hmem
    exact hdrawn.2.2 token (mem_drawn_of_find? hfound) token hmem rfl
  constructor
  case unchanged =>
    intro token record time hfound hrevoked
    rw [run_append]
    exact run_of_revoked hfound (isActive_eq_false hrevoked) (hold token record hfound)
  case deleted =>
    intro token record hfound hgone
    rw [run_append] at hgone
    obtain ⟨before, span, now, after, kept, hlater, hkept, hexpired⟩ := run_deletes hfound hgone
    rw [← run_append] at hkept
    exact ⟨before, span, now, after, kept, hlater, hkept, hexpired⟩
  case already_revoked =>
    intro token record time hfound hrevoked lifetime now
    exact refused_of_revoked hfound (isActive_eq_false hrevoked) lifetime now
  case invalid =>
    rintro token record hfound before after rfl hgone lifetime now
    have hafter : token ∉ drawn after := by
      intro hmem
      refine hold token record hfound ?_
      rw [drawn_append]
      exact List.mem_append_right _ hmem
    have hnone : (empty.run (earlier ++ (before ++ after))).find? token = none := by
      rw [← List.append_assoc, run_append]
      exact run_find?_eq_none hgone hafter
    exact refused_of_unknown hnone lifetime now

/-- One token is revoked and another one lapses and is prolonged, before the clock is moved back and
a deletion with a negative span takes both away. -/
theorem deletion_isPermanent :
    let holder : SecurityContext := ⟨⟨7, by decide, by decide⟩, .user⟩
    let later : Instant := ⟨90000000000, by decide, by decide⟩
    let earlier : List Operation := [.insert (.ofSeconds 60) .epoch ⟨"a"⟩ holder,
      .insert (.ofSeconds 60) .epoch ⟨"b"⟩ holder, .revoke .epoch ⟨"a"⟩,
      .prolong (.ofSeconds 60) later ⟨"b"⟩]
    let rest : List Operation := [.revokeExpired later, .find ⟨"a"⟩,
      .prolong (.ofSeconds 60) later ⟨"a"⟩, .deleteExpiredFor (.ofSeconds (-150)) .epoch,
      .insert (.ofSeconds 60) .epoch ⟨"c"⟩ holder]
    (drawn (earlier ++ rest)).Nodup ∧ IsPermanent earlier rest := by
  intro holder later earlier rest
  have hdrawn : (drawn (earlier ++ rest)).Nodup := by
    have htokens : drawn (earlier ++ rest) = [⟨"a"⟩, ⟨"b"⟩, ⟨"c"⟩] := rfl
    rw [htokens]
    decide
  exact ⟨hdrawn, run_isPermanent earlier rest hdrawn⟩

end SessionTokens.Store
