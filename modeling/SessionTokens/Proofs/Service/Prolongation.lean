import SessionTokens.Proofs.Service.Redemption

/-! # Prolonging a refresh token

Four checks come before a token is prolonged, and each of them refuses for a reason of its own: the
token has to be known, not revoked, expired, and the new expiry has to be representable. A token
that was refused is as it was. One that was prolonged can be redeemed through its new expiry, by
whatever deployment keeps its record as the prolongation left it.
-/

namespace SessionTokens

open Time

namespace Store

variable {store : Store} {token : RefreshToken} {lifetime : Duration} {now expiresAt : Instant}

/-! ## Records and their tokens -/

/-- Every record is kept under its own token. -/
def IsFiled (store : Store) : Prop :=
  ∀ token record, store.find? token = some record → record.token = token

theorem IsFiled.apply (h : store.IsFiled) (operation : Operation) :
    (store.apply operation).IsFiled := by
  intro token record hfound
  have hleaves := store.apply_leaves operation token
  have hfiled := h token
  rw [hfound] at hleaves
  generalize store.find? token = before at hleaves hfiled
  cases hleaves with
  | kept => exact hfiled record rfl
  | issued _ hissued => exact (issue_eq_ok hissued).1
  | @prolonged _ _ _ old => exact hfiled old rfl
  | @revoked _ old => exact hfiled old rfl

theorem run_isFiled (operations : List Operation) : (empty.run operations).IsFiled := by
  have hrun (store : Store) (h : store.IsFiled) : (store.run operations).IsFiled := by
    induction operations generalizing store with
    | nil => exact h
    | cons operation rest ih => exact ih _ (h.apply operation)
  exact hrun empty fun _ _ hfound => nomatch hfound

/-! ## The outcomes -/

/-- How prolonging a token ends. -/
inductive Prolongation (store : Store) (lifetime : Duration) (now : Instant)
    (token : RefreshToken) : Except DomainError RefreshToken × Store → Prop
  | absent : store.find? token = none →
      Prolongation store lifetime now token (.error (.refreshToken .invalid), store)
  | inactive {record : Record} : store.find? token = some record → record.isActive = false →
      Prolongation store lifetime now token (.error (.refreshToken .alreadyRevoked), store)
  | unexpired {record : Record} : store.find? token = some record → record.isActive = true →
      now ≤ record.expiresAt →
        Prolongation store lifetime now token (.error (.refreshToken .stillValid), store)
  | noExpiry {record : Record} : store.find? token = some record → record.isActive = true →
      record.expiresAt < now → now.add? lifetime = none →
        Prolongation store lifetime now token (.error (.token .generationFailed), store)
  | prolonged {record : Record} {expiresAt : Instant} : store.find? token = some record →
      record.isActive = true → record.expiresAt < now → now.add? lifetime = some expiresAt →
        Prolongation store lifetime now token
          (.ok record.token, store.replace token { record with expiresAt })

theorem prolong_of_unexpired {record : Record} (hfound : store.find? token = some record)
    (hactive : record.isActive = true) (hleft : now ≤ record.expiresAt) :
    store.prolong lifetime now token = (.error (.refreshToken .stillValid), store) := by
  have hunexpired : record.isExpiredAt now = false := decide_eq_false (Instant.not_lt.mpr hleft)
  simp [prolong, hfound, hactive, hunexpired]

theorem prolong_of_no_expiry {record : Record} (hfound : store.find? token = some record)
    (hactive : record.isActive = true) (hlapsed : record.expiresAt < now)
    (hexpiry : now.add? lifetime = none) :
    store.prolong lifetime now token = (.error (.token .generationFailed), store) := by
  have hexpired : record.isExpiredAt now = true := decide_eq_true hlapsed
  simp [prolong, hfound, hactive, hexpired, hexpiry]

theorem prolong_of_lapsed {record : Record} (hfound : store.find? token = some record)
    (hactive : record.isActive = true) (hlapsed : record.expiresAt < now)
    (hexpiry : now.add? lifetime = some expiresAt) :
    store.prolong lifetime now token =
      (.ok record.token, store.replace token { record with expiresAt }) := by
  have hexpired : record.isExpiredAt now = true := decide_eq_true hlapsed
  simp [prolong, hfound, hactive, hexpired, hexpiry]

theorem prolong_prolongation (store : Store) (lifetime : Duration) (now : Instant)
    (token : RefreshToken) :
    store.Prolongation lifetime now token (store.prolong lifetime now token) := by
  cases hfound : store.find? token with
  | none =>
      rw [(refused_of_unknown hfound lifetime now).2]
      exact .absent hfound
  | some record =>
      cases hactive : record.isActive with
      | false =>
          rw [(refused_of_revoked hfound hactive lifetime now).2]
          exact .inactive hfound hactive
      | true =>
          by_cases hlapsed : record.expiresAt < now
          · cases hexpiry : now.add? lifetime with
            | none =>
                rw [prolong_of_no_expiry hfound hactive hlapsed hexpiry]
                exact .noExpiry hfound hactive hlapsed hexpiry
            | some expiresAt =>
                rw [prolong_of_lapsed hfound hactive hlapsed hexpiry]
                exact .prolonged hfound hactive hlapsed hexpiry
          · have hleft := Instant.not_lt.mp hlapsed
            rw [prolong_of_unexpired hfound hactive hleft]
            exact .unexpired hfound hactive hleft

theorem Prolongation.store_eq {outcome : Except DomainError RefreshToken × Store}
    (h : store.Prolongation lifetime now token outcome) {failure : DomainError}
    (hfailure : outcome.1 = .error failure) : outcome.2 = store := by
  cases h with
  | absent => rfl
  | inactive => rfl
  | unexpired => rfl
  | noExpiry => rfl
  | prolonged => cases hfailure

/-- What is prolonged is a record that had lapsed, and nothing but its expiry is changed. -/
theorem Prolongation.find?_eq {outcome : Except DomainError RefreshToken × Store}
    (h : store.Prolongation lifetime now token outcome) {presented : RefreshToken}
    (hok : outcome.1 = .ok presented) :
    ∃ record expiresAt, store.find? token = some record ∧ record.isActive = true ∧
      now.add? lifetime = some expiresAt ∧
        ∀ other, outcome.2.find? other =
          if other = token then some { record with expiresAt } else store.find? other := by
  cases h with
  | absent => cases hok
  | inactive => cases hok
  | unexpired => cases hok
  | noExpiry => cases hok
  | @prolonged record expiresAt hfound hactive _ hexpiry =>
      refine ⟨record, expiresAt, hfound, hactive, hexpiry, fun other => ?_⟩
      rw [find?_replace, hfound, Option.map_some]

end Store

/-! ## Redeeming what was prolonged -/

/-- A token with time left is redeemed wherever a pair of tokens can be issued. -/
theorem Deployment.CanIssue.refresh_eq_ok {d : Deployment} {token : RefreshToken} {record : Record}
    (h : d.CanIssue) (hrefused : d.refused = []) (hfound : d.store.find? token = some record)
    (hactive : record.isActive = true) (hleft : d.clock.now ≤ record.expiresAt)
    (hnew : d.store.find? (d.ids d.drawn) = none) : ∃ pair, (d.refresh token).1 = .ok pair := by
  have hother : d.ids d.drawn ≠ token := by
    intro heq
    rw [heq, hfound] at hnew
    cases hnew
  have hstillNew : (d.revoking token record).store.find? (d.ids d.drawn) = none := by
    rw [find?_revoking hfound, if_neg hother]
    exact hnew
  rw [refresh_of_unexpired hrefused hfound hactive hleft]
  have hgenerates :=
    generate_generatesPair (d.revoking token record) record.context h.signs hrefused
  exact hgenerates.succeeds_iff.mpr ⟨h.accessExpiry, h.refreshExpiry, hstillNew⟩

namespace Store

/-- Prolonging a token from end to end: what is answered when, what it changes, and what the token
is good for afterwards. -/
structure ProlongsLapsed (store : Store) (lifetime : Duration) (now : Instant)
    (token : RefreshToken) : Prop where
  invalid_iff : (store.prolong lifetime now token).1 = .error (.refreshToken .invalid) ↔
    store.find? token = none
  alreadyRevoked_iff :
    (store.prolong lifetime now token).1 = .error (.refreshToken .alreadyRevoked) ↔
      ∃ record, store.find? token = some record ∧ record.isActive = false
  stillValid_iff : (store.prolong lifetime now token).1 = .error (.refreshToken .stillValid) ↔
    ∃ record, store.find? token = some record ∧ record.isActive = true ∧ now ≤ record.expiresAt
  generationFailed_iff :
    (store.prolong lifetime now token).1 = .error (.token .generationFailed) ↔
      ∃ record, store.find? token = some record ∧ record.isActive = true ∧
        record.expiresAt < now ∧ now.add? lifetime = none
  unchanged : ∀ failure, (store.prolong lifetime now token).1 = .error failure →
    (store.prolong lifetime now token).2 = store
  /-- In all other cases the token itself is answered, and the one change is the new expiry. -/
  prolonged : ∀ record expiresAt, store.find? token = some record → record.isActive = true →
    record.expiresAt < now → now.add? lifetime = some expiresAt →
      (store.prolong lifetime now token).1 = .ok token ∧
      ∀ other, (store.prolong lifetime now token).2.find? other =
        if other = token then some { record with expiresAt } else store.find? other
  /-- Whatever happens to other tokens, to the clock and to the configuration, the token is redeemed
  as long as its new expiry has not passed and a pair can be issued under a new token. -/
  redeemable : (store.prolong lifetime now token).1 = .ok token →
    ∀ expiresAt, now.add? lifetime = some expiresAt → ∀ d : Deployment, d.refused = [] →
      d.store.find? token = (store.prolong lifetime now token).2.find? token →
        d.clock.now ≤ expiresAt → d.CanIssue → d.store.find? (d.ids d.drawn) = none →
          ∃ pair, (d.refresh token).1 = .ok pair

/-- In every store that operations have left, at every reading of the clock and for every lifetime,
exactly the tokens that have lapsed are prolonged, and they can be redeemed again. -/
theorem prolong_prolongsLapsed (operations : List Operation) (lifetime : Duration) (now : Instant)
    (token : RefreshToken) : (empty.run operations).ProlongsLapsed lifetime now token := by
  have hfiled := run_isFiled operations
  generalize empty.run operations = store at hfiled
  have h := store.prolong_prolongation lifetime now token
  constructor
  -- the endings exclude one another, so that an answer tells which of them it was
  case invalid_iff =>
    generalize store.prolong lifetime now token = outcome at h
    cases h with
    | absent hnone => simp [hnone]
    | inactive hfound => simp [hfound]
    | unexpired hfound => simp [hfound]
    | noExpiry hfound => simp [hfound]
    | prolonged hfound => simp [hfound]
  case alreadyRevoked_iff =>
    generalize store.prolong lifetime now token = outcome at h
    cases h with
    | absent hnone => simp [hnone]
    | inactive hfound hinactive => simp [hfound, hinactive]
    | unexpired hfound hactive => simp [hfound, hactive]
    | noExpiry hfound hactive => simp [hfound, hactive]
    | prolonged hfound hactive => simp [hfound, hactive]
  case stillValid_iff =>
    generalize store.prolong lifetime now token = outcome at h
    cases h with
    | absent hnone => simp [hnone]
    | inactive hfound hinactive => simp [hfound, hinactive]
    | unexpired hfound hactive hleft => simp [hfound, hactive, hleft]
    | noExpiry hfound hactive hexpired => simp [hfound, Instant.not_le.mpr hexpired]
    | prolonged hfound hactive hexpired => simp [hfound, Instant.not_le.mpr hexpired]
  case generationFailed_iff =>
    generalize store.prolong lifetime now token = outcome at h
    cases h with
    | absent hnone => simp [hnone]
    | inactive hfound hinactive => simp [hfound, hinactive]
    | unexpired hfound hactive hleft => simp [hfound, Instant.not_lt.mpr hleft]
    | noExpiry hfound hactive hexpired hexpiry => simp [hfound, hactive, hexpired, hexpiry]
    | prolonged hfound hactive hexpired hexpiry => simp [hfound, hexpiry]
  case unchanged => exact fun failure => h.store_eq
  case prolonged =>
    intro record expiresAt hfound hactive hexpired hexpiry
    rw [prolong_of_lapsed hfound hactive hexpired hexpiry, hfiled token record hfound]
    refine ⟨rfl, fun other => ?_⟩
    rw [find?_replace, hfound, Option.map_some]
  case redeemable =>
    intro hok expiresAt hexpiry d hrefused hkept hleft hissue hnew
    obtain ⟨record, newExpiry, -, hactive, hnewExpiry, hfind⟩ := h.find?_eq hok
    rw [hfind, if_pos rfl] at hkept
    cases hnewExpiry.symm.trans hexpiry
    exact hissue.refresh_eq_ok hrefused hkept hactive hleft hnew

/-- A token of one minute is prolonged from the nanosecond after its expiry on, unless another
minute would lead beyond the representable instants. -/
example :
    let holder : SecurityContext := ⟨⟨7, by decide, by decide⟩, .user⟩
    let expiry : Instant := ⟨60000000000, by decide, by decide⟩
    let afterwards : Instant := ⟨60000000001, by decide, by decide⟩
    let store := empty.run [.insert (.ofSeconds 60) .epoch ⟨"a"⟩ holder]
    let answer (now : Instant) := (store.prolong (.ofSeconds 60) now ⟨"a"⟩).1
    answer expiry = .error (.refreshToken .stillValid) ∧ answer afterwards = .ok ⟨"a"⟩ ∧
      answer .latest = .error (.token .generationFailed) := by
  refine ⟨rfl, rfl, rfl⟩

end Store

end SessionTokens
