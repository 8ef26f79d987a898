import SessionTokens.Proofs.Service.Reaping

/-! # Sweeps do what they count

A sweep changes the records that it is for and no others, and the number that it answers is theirs.
Records are counted by their tokens, each of which is named once. A cycle of the reaper reports both
numbers and leaves nothing that either sweep would still find.
-/

namespace SessionTokens

open Time

namespace Store

variable {store : Store} {now : Instant} {span : Duration}

/-- So many records have a property: their tokens can be listed, each of them once. -/
def Counts (store : Store) (p : Record → Prop) (number : Nat) : Prop :=
  ∃ tokens : List RefreshToken, tokens.Nodup ∧
    (∀ token, token ∈ tokens ↔ ∃ record, store.find? token = some record ∧ p record) ∧
      tokens.length = number

theorem count_counts (store : Store) (p : Record → Bool) :
    store.Counts (fun record => p record = true) (store.count p) := by
  refine ⟨(store.rows.filter fun row => p row.2).map Prod.fst, ?_, fun token => ?_, ?_⟩
  · exact (List.filter_sublist.map Prod.fst).nodup store.keys_nodup
  · constructor
    · intro hmem
      obtain ⟨⟨key, record⟩, hrow, rfl⟩ := List.mem_map.mp hmem
      obtain ⟨hkept, hp⟩ := List.mem_filter.mp hrow
      exact ⟨record, find?_eq_some_iff.mpr hkept, hp⟩
    · rintro ⟨record, hfound, hp⟩
      exact List.mem_map.mpr
        ⟨(token, record), List.mem_filter.mpr ⟨find?_eq_some_iff.mp hfound, hp⟩, rfl⟩
  · rw [List.length_map, ← List.countP_eq_length_filter, count_eq_countP]

theorem Counts.congr {p q : Record → Prop} {number : Nat} (h : store.Counts p number)
    (hpq : ∀ record, p record ↔ q record) : store.Counts q number := by
  have hsame : p = q := funext fun record => propext (hpq record)
  rwa [hsame] at h

theorem size_mapRecords (store : Store) (f : RefreshToken → Record → Record) :
    (store.mapRecords f).size = store.size :=
  List.length_map _

theorem size_filter_add_count (store : Store) (p : Record → Bool) :
    (store.filter fun record => !p record).size + store.count p = store.size := by
  have hsplit := List.length_eq_countP_add_countP (fun row => p row.2) (l := store.rows)
  simp only [size, rows_filter, ← List.countP_eq_length_filter, count_eq_countP]
  simp only [Bool.not_eq_true, Bool.decide_eq_false] at hsplit
  omega

theorem isLapsed_iff {record : Record} :
    isLapsed now record = true ↔ record.isActive = true ∧ record.expiresAt ≤ now := by
  rw [isLapsed, Bool.and_eq_true, Record.isOverdueAt, decide_eq_true_iff]

theorem isPast_iff {record : Record} :
    isPast span now record = true ↔ record.expiresAt.nanos ≤ now.nanos - span.nanos :=
  decide_eq_true_iff

/-! ## Single sweeps -/

/-- Revoking what has lapsed: the time of revocation is put on exactly the active records whose
expiry has come, everything else is as it was, and the answer is how many they were. -/
structure RevokesLapsed (store : Store) (now : Instant) : Prop where
  found : ∀ token, (store.revokeExpired now).2.find? token =
    (store.find? token).map fun record =>
      if record.isActive = true ∧ record.expiresAt ≤ now then { record with revokedAt := some now }
      else record
  counted : store.Counts (fun record => record.isActive = true ∧ record.expiresAt ≤ now)
    (store.revokeExpired now).1

theorem revokeExpired_revokesLapsed (store : Store) (now : Instant) :
    store.RevokesLapsed now where
  found token := by
    simp only [find?_revokeExpired, isLapsed_iff, Record.revoke]
  counted := (store.count_counts (isLapsed now)).congr fun _ => isLapsed_iff

/-- Deleting what has been expired for a span: exactly the records whose expiry had come that long
ago are gone, revoked or not, and the answer is how many they were. -/
structure DeletesPast (store : Store) (span : Duration) (now : Instant) : Prop where
  found : ∀ token record, (store.deleteExpiredFor span now).2.find? token = some record ↔
    store.find? token = some record ∧ now.nanos - span.nanos < record.expiresAt.nanos
  counted : store.Counts (fun record => record.expiresAt.nanos ≤ now.nanos - span.nanos)
    (store.deleteExpiredFor span now).1
  size : (store.deleteExpiredFor span now).2.size + (store.deleteExpiredFor span now).1 = store.size

theorem deleteExpiredFor_deletesPast (store : Store) (hspan : 0 ≤ span.nanos) (now : Instant) :
    store.DeletesPast span now := by
  have heq := store.deleteExpiredFor_eq hspan now
  constructor
  case found =>
    intro token record
    rw [heq, find?_filter, Bool.not_eq_true', isPast, decide_eq_false_iff_not, Int.not_le]
  case counted =>
    rw [heq]
    exact (store.count_counts (isPast span now)).congr fun _ => isPast_iff
  case size =>
    rw [heq]
    exact store.size_filter_add_count (isPast span now)

end Store

/-! ## A cycle -/

namespace Deployment

variable {d : Deployment} {grace : Duration}

/-- A cycle of the reaper: what it reports is what it did, and it leaves nothing to be done. -/
structure ReapsCounted (d : Deployment) (grace : Duration) : Prop where
  none_lapsed : ∀ token record, (d.reap grace).2.store.find? token = some record →
    ¬ (record.isActive = true ∧ record.expiresAt ≤ d.clock.now)
  none_past : ∀ token record, (d.reap grace).2.store.find? token = some record →
    ¬ record.expiresAt.nanos ≤ d.clock.now.nanos - grace.nanos
  revoked : d.store.Counts
    (fun record => record.isActive = true ∧ record.expiresAt ≤ d.clock.now) (d.reap grace).1.revoked
  deleted : d.store.Counts
    (fun record => record.expiresAt.nanos ≤ d.clock.now.nanos - grace.nanos)
    (d.reap grace).1.deleted
  errors : (d.reap grace).1.errors = []
  size : d.store.size = (d.reap grace).2.store.size + (d.reap grace).1.deleted

theorem reap_report (hrefused : d.refused = []) (grace : Duration) :
    (d.reap grace).1 = (d.store.reap grace d.clock.now).1 := by
  simp only [reap, revokeExpired, revokeExpiredAt, deleteExpiredFor, deleteExpiredForAt,
    unlessRefused, hrefused, List.contains_nil, Bool.false_eq_true, if_false, Store.reap]

theorem reap_reapsCounted (hrefused : d.refused = []) (hgrace : 0 ≤ grace.nanos) :
    d.ReapsCounted grace := by
  have hreport := reap_report hrefused grace
  have hstore : (d.reap grace).2.store = (d.store.reap grace d.clock.now).2 := by
    rw [reap_eq hrefused]
  have hcycle := d.store.reap_eq hgrace d.clock.now
  -- a revocation leaves every expiry alone, so that the second sweep counts what it would have
  -- counted without the first one
  have hcount : (d.store.revokeExpired d.clock.now).2.count (Store.isPast grace d.clock.now) =
      d.store.count (Store.isPast grace d.clock.now) :=
    Store.count_revokeExpired (fun _ _ => rfl) d.store d.clock.now
  rw [hcycle] at hreport hstore
  constructor
  case none_lapsed =>
    intro token record hfound
    rw [hstore] at hfound
    have hswept := (Store.find?_filter.mp hfound).1
    rw [← Store.isLapsed_iff, Store.isLapsed_eq_false_of_revokeExpired hswept]
    exact Bool.false_ne_true
  case none_past =>
    intro token record hfound
    rw [hstore] at hfound
    rw [← Store.isPast_iff]
    simpa using (Store.find?_filter.mp hfound).2
  case revoked =>
    rw [hreport]
    exact (d.store.revokeExpired_revokesLapsed d.clock.now).counted
  case deleted =>
    rw [hreport, hcount]
    exact (d.store.count_counts _).congr fun _ => Store.isPast_iff
  case errors => rw [hreport]
  case size =>
    rw [hreport, hstore, Store.size_filter_add_count]
    exact (d.store.size_mapRecords _).symm

/-- What the sweeps make of a store: each of them alone at any reading of the clock, and both of
them in a cycle. -/
structure SweepsExactly (d : Deployment) : Prop where
  revokes : ∀ now, d.store.RevokesLapsed now
  /-- The span may be so long that it leads beyond the representable instants. -/
  deletes : ∀ (span : Duration) (now : Instant), 0 ≤ span.nanos → d.store.DeletesPast span now
  reaps : ∀ grace : Duration, 0 ≤ grace.nanos → d.ReapsCounted grace

/-- Whatever the store keeps, every sweep does exactly what it counts. -/
theorem reap_sweepsExactly (d : Deployment) (hrefused : d.refused = []) : d.SweepsExactly where
  revokes now := d.store.revokeExpired_revokesLapsed now
  deletes _ now hspan := d.store.deleteExpiredFor_deletesPast hspan now
  reaps _ hgrace := reap_reapsCounted hrefused hgrace

/-- Of three tokens the first has expired and was revoked, the second expires at the very reading of
the clock, and the third has a minute left. -/
theorem reap_at_expiry_sweepsExactly :
    let ids : Nat → RefreshToken := fun n => ⟨String.ofList (List.replicate n 'a')⟩
    let start : Deployment :=
      { config := ⟨"issuer", ⟨[115]⟩, .ofSeconds 60⟩, refreshLifetime := .ofSeconds 600
        clock := .startingAt .epoch, ids }
    let holder : SecurityContext := ⟨⟨7, by decide, by decide⟩, .user⟩
    let minute : Deployment.Command := .move (.advance (.ofSeconds 60))
    let d := (start.performAll [.insert holder, .storeRevoke (ids 0), minute, .insert holder,
      minute, .insert holder, .move (.advance (.ofSeconds 540))]).2
    d.refused = [] ∧ d.SweepsExactly ∧
      (d.reap (.ofSeconds 60)).1 = ⟨1, 1, []⟩ ∧ (d.reap (.ofSeconds 60)).2.store.size = 2 := by
  intro ids start holder minute d
  have hrefused : d.refused = [] := (performAll_evolves start _).refused_eq
  exact ⟨hrefused, reap_sweepsExactly d hrefused, rfl, rfl⟩

end Deployment

end SessionTokens
