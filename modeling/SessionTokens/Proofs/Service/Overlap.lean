import SessionTokens.Proofs.Store.Sweeps
import SessionTokens.Service.Overlap

/-! # Overlapping cycles of the reaper do what one of them does

However the sweeps of several cycles come one after the other at one reading of the clock, they
leave what a single cycle with the smallest of their graces would leave. The first sweep is a
revocation, because every cycle begins with one. It takes all that has lapsed, so that later ones
find nothing. What the deletions have taken so far is what has been expired for the grace of some
cycle that is over, and what each of them counts is what it adds to that.
-/

namespace SessionTokens

open Time

/-! ## What a sweep counts -/

namespace Sweep

variable {store : Store}

theorem length_filter_tokens {p : RefreshToken → Bool} {q : Record → Bool}
    (h : ∀ token record, store.find? token = some record → p token = q record) :
    ((store.rows.map Prod.fst).filter p).length = store.count q := by
  rw [← List.countP_eq_length_filter, List.countP_map, Store.count_eq_countP]
  apply List.countP_congr
  intro row hrow
  rw [← h row.1 row.2 (Store.find?_eq_some_iff.mpr hrow)]
  rfl

theorem filter_tokens_eq_nil {p : RefreshToken → Bool}
    (h : ∀ token record, store.find? token = some record → p token = false) :
    (store.rows.map Prod.fst).filter p = [] := by
  apply List.filter_eq_nil_iff.mpr
  intro token hmem
  obtain ⟨row, hrow, rfl⟩ := List.mem_map.mp hmem
  simp [h row.1 row.2 (Store.find?_eq_some_iff.mpr hrow)]

variable (index : Nat) (now : Instant)

theorem revoked_of_revokeExpired :
    (⟨index, store, (store.revokeExpired now).2⟩ : Sweep).revoked.length =
      (store.revokeExpired now).1 := by
  apply length_filter_tokens
  intro token record hfound
  rw [Store.find?_revokeExpired, hfound]
  cases hlapsed : Store.isLapsed now record with
  | true =>
      have hactive := (Bool.and_eq_true _ _ |>.mp hlapsed).1
      have hrevoked : (record.revoke now).isActive = false := rfl
      simp [hactive, hlapsed, hrevoked]
  | false => simp [hlapsed]

theorem deleted_of_revokeExpired :
    (⟨index, store, (store.revokeExpired now).2⟩ : Sweep).deleted = [] := by
  apply filter_tokens_eq_nil
  intro token record hfound
  rw [Store.find?_revokeExpired, hfound]
  rfl

theorem revoked_of_filter (keep : Record → Bool) :
    (⟨index, store, store.filter keep⟩ : Sweep).revoked = [] := by
  apply filter_tokens_eq_nil
  intro token record hfound
  rw [Store.find?_filter_eq, hfound]
  cases hkeep : keep record with
  | true => simp [hkeep]
  | false => simp [hkeep]

theorem deleted_of_filter (keep : Record → Bool) :
    (⟨index, store, store.filter keep⟩ : Sweep).deleted.length = store.count fun r => !keep r := by
  apply length_filter_tokens
  intro token record hfound
  rw [Store.find?_filter_eq, hfound]
  cases hkeep : keep record with
  | true => simp [hkeep]
  | false => simp [hkeep]

theorem unchanged :
    (⟨index, store, store⟩ : Sweep).revoked = [] ∧
      (⟨index, store, store⟩ : Sweep).deleted = [] := by
  constructor
  · apply filter_tokens_eq_nil
    intro token record hfound
    rw [hfound]
    simp
  · apply filter_tokens_eq_nil
    intro token record hfound
    rw [hfound]
    rfl

end Sweep

namespace ReaperCycle

/-- A cycle counts in its next sweep what the sweep does. -/
theorem sweep_counts (cycle : ReaperCycle) (hgrace : 0 ≤ cycle.grace.nanos)
    (index : Nat) (now : Instant) (store : Store) :
    let sweep : Sweep := ⟨index, store, (cycle.sweep now store).2⟩
    (cycle.sweep now store).1.revoked = sweep.revoked.length + cycle.revoked ∧
      (cycle.sweep now store).1.deleted = sweep.deleted.length + cycle.deleted := by
  obtain ⟨grace, progress⟩ := cycle
  cases progress with
  | waiting =>
      simp only [sweep, Sweep.revoked_of_revokeExpired, Sweep.deleted_of_revokeExpired]
      exact ⟨rfl, rfl⟩
  | revoked count =>
      simp only [sweep, Store.deleteExpiredFor_eq store hgrace, Sweep.revoked_of_filter,
        Sweep.deleted_of_filter, Bool.not_not]
      exact ⟨(Nat.zero_add _).symm, rfl⟩
  | ended report =>
      simp only [sweep, Sweep.unchanged, List.length_nil, Nat.zero_add, and_self]

theorem sweep_keeps (cycle : ReaperCycle) (now : Instant) (store : Store) :
    store.Keeps (cycle.sweep now store).2 := by
  obtain ⟨grace, progress⟩ := cycle
  cases progress with
  | waiting => exact store.apply_keeps (.revokeExpired now) rfl
  | revoked count => exact store.apply_keeps (.deleteExpiredFor grace now) rfl
  | ended report => exact store.keeps_refl

theorem sweep_grace (cycle : ReaperCycle) (now : Instant) (store : Store) :
    (cycle.sweep now store).1.grace = cycle.grace := by
  obtain ⟨grace, progress⟩ := cycle
  cases progress <;> rfl

variable {cycles : List ReaperCycle} {cycle : ReaperCycle} {index : Nat}

/-- Exchanging one cycle for another exchanges what is counted for it. -/
theorem total_set (count : ReaperCycle → Nat) (hcycle : cycles[index]? = some cycle)
    (other : ReaperCycle) :
    total count (cycles.set index other) + count cycle = total count cycles + count other := by
  induction cycles generalizing index with
  | nil => cases hcycle
  | cons first rest ih =>
      cases index with
      | zero =>
          cases hcycle
          simp only [List.set_cons_zero, total]
          omega
      | succ index =>
          have hrest := ih hcycle
          simp only [List.set_cons_succ, total]
          omega

theorem any_set {p : ReaperCycle → Bool} (hcycle : cycles[index]? = some cycle)
    {other : ReaperCycle} (hstill : p cycle = true → p other = true) :
    (cycles.set index other).any p = (cycles.any p || p other) := by
  induction cycles generalizing index with
  | nil => cases hcycle
  | cons first rest ih =>
      cases index with
      | zero =>
          cases hcycle
          simp only [List.set_cons_zero, List.any_cons]
          cases hwas : p cycle with
          | true => simp [hstill hwas]
          | false => simp [Bool.or_comm]
      | succ index => simp only [List.set_cons_succ, List.any_cons, ih hcycle, Bool.or_assoc]

theorem total_eq_zero {count : ReaperCycle → Nat} (h : ∀ cycle ∈ cycles, count cycle = 0) :
    total count cycles = 0 := by
  induction cycles with
  | nil => rfl
  | cons first rest ih =>
      rw [total, h first List.mem_cons_self, Nat.zero_add]
      exact ih fun cycle hmem => h cycle (List.mem_cons_of_mem _ hmem)

end ReaperCycle

namespace Sweep

variable {sweep : Sweep} {token : RefreshToken}

theorem of_mem_revoked (h : token ∈ sweep.revoked) :
    (∃ record, sweep.before.find? token = some record ∧ record.isActive = true) ∧
      ∃ record, sweep.after.find? token = some record ∧ record.isActive = false := by
  obtain ⟨hbefore, hafter⟩ := Bool.and_eq_true _ _ |>.mp (List.mem_filter.mp h).2
  simpa [Option.any_eq_true] using And.intro hbefore hafter

theorem of_mem_deleted (h : token ∈ sweep.deleted) :
    (∃ record, sweep.before.find? token = some record) ∧ sweep.after.find? token = none := by
  obtain ⟨hmem, hgone⟩ := List.mem_filter.mp h
  obtain ⟨row, hrow, rfl⟩ := List.mem_map.mp hmem
  exact ⟨⟨row.2, Store.find?_eq_some_iff.mpr hrow⟩, Option.isNone_iff_eq_none.mp hgone⟩

end Sweep

namespace Overlap

variable {s : Overlap} {index : Nat} {cycle : ReaperCycle} {now : Instant}

theorem sweep_eq_self (hnone : s.cycles[index]? = none) : s.sweep now index = s := by
  simp only [sweep, hnone]

theorem sweep_eq (now : Instant) (hcycle : s.cycles[index]? = some cycle) :
    s.sweep now index =
      { store := (cycle.sweep now s.store).2
        cycles := s.cycles.set index (cycle.sweep now s.store).1
        sweeps := ⟨index, s.store, (cycle.sweep now s.store).2⟩ :: s.sweeps } := by
  simp only [sweep, hcycle]

/-! ## Nothing is counted twice -/

/-- The cycles count what their sweeps do, and what was done by a sweep is not done again: a token
that was revoked is not active, and one that was deleted has no record. -/
structure CountsOnce (s : Overlap) : Prop where
  counted : ∀ index cycle, s.cycles[index]? = some cycle →
    cycle.revoked = ((s.sweepsOf index).flatMap Sweep.revoked).length ∧
      cycle.deleted = ((s.sweepsOf index).flatMap Sweep.deleted).length
  revoked_nodup : (s.sweeps.flatMap Sweep.revoked).Nodup
  revoked_inactive : ∀ token ∈ s.sweeps.flatMap Sweep.revoked, ∀ record,
    s.store.find? token = some record → record.isActive = false
  deleted_nodup : (s.sweeps.flatMap Sweep.deleted).Nodup
  deleted_gone : ∀ token ∈ s.sweeps.flatMap Sweep.deleted, s.store.find? token = none

theorem start_countsOnce (store : Store) (graces : List Duration) :
    (start store graces).CountsOnce where
  counted index cycle hcycle := by
    simp only [start, List.getElem?_map, Option.map_eq_some_iff] at hcycle
    obtain ⟨grace, -, rfl⟩ := hcycle
    exact ⟨rfl, rfl⟩
  revoked_nodup := List.nodup_nil
  revoked_inactive token hmem := by cases hmem
  deleted_nodup := List.nodup_nil
  deleted_gone token hmem := by cases hmem

theorem sweepsOf_sweep (hcycle : s.cycles[index]? = some cycle) (other : Nat) :
    (s.sweep now index).sweepsOf other =
      if index = other then
        ⟨index, s.store, (cycle.sweep now s.store).2⟩ :: s.sweepsOf other
      else s.sweepsOf other := by
  rw [sweep_eq now hcycle]
  simp [sweepsOf, List.filter_cons]

theorem CountsOnce.counted_sweep (h : s.CountsOnce) (now : Instant)
    (hcycle : s.cycles[index]? = some cycle) (hgrace : 0 ≤ cycle.grace.nanos) (other : Nat)
    (found : ReaperCycle) (hfound : (s.sweep now index).cycles[other]? = some found) :
    found.revoked = (((s.sweep now index).sweepsOf other).flatMap Sweep.revoked).length ∧
      found.deleted = (((s.sweep now index).sweepsOf other).flatMap Sweep.deleted).length := by
  rw [sweepsOf_sweep hcycle]
  rw [sweep_eq now hcycle] at hfound
  by_cases heq : index = other
  · subst heq
    obtain ⟨hlt, -⟩ := List.getElem?_eq_some_iff.mp hcycle
    simp only [List.getElem?_set_self hlt, Option.some.injEq] at hfound
    subst hfound
    obtain ⟨hrevoked, hdeleted⟩ := h.counted index cycle hcycle
    have hcounts := cycle.sweep_counts hgrace index now s.store
    simp only [if_true, List.flatMap_cons, List.length_append]
    rw [hcounts.1, hcounts.2, hrevoked, hdeleted]
    exact ⟨rfl, rfl⟩
  · simp only [List.getElem?_set_ne heq] at hfound
    rw [if_neg heq]
    exact h.counted other found hfound

theorem CountsOnce.sweep (h : s.CountsOnce)
    (hgraces : ∀ cycle ∈ s.cycles, 0 ≤ cycle.grace.nanos) (now : Instant) (index : Nat) :
    (s.sweep now index).CountsOnce := by
  cases hcycle : s.cycles[index]? with
  | none =>
      rw [sweep_eq_self hcycle]
      exact h
  | some cycle =>
      have hgrace := hgraces cycle (List.mem_of_getElem? hcycle)
      have hkeeps := cycle.sweep_keeps now s.store
      have hkeys := s.store.keys_nodup
      constructor
      case counted => exact h.counted_sweep now hcycle hgrace
      all_goals rw [sweep_eq now hcycle]; simp only [List.flatMap_cons]
      case revoked_nodup =>
        refine List.nodup_append.mpr ⟨hkeys.filter _, h.revoked_nodup, ?_⟩
        intro token hnew other hold heq
        subst heq
        obtain ⟨⟨record, hfound, hactive⟩, -⟩ := Sweep.of_mem_revoked hnew
        rw [h.revoked_inactive token hold record hfound] at hactive
        cases hactive
      case revoked_inactive =>
        intro token hmem record hfound
        rcases List.mem_append.mp hmem with hnew | hold
        · obtain ⟨-, kept, hkept, hinactive⟩ := Sweep.of_mem_revoked hnew
          cases hfound.symm.trans hkept
          exact hinactive
        · exact hkeeps.not_active (h.revoked_inactive token hold) record hfound
      case deleted_nodup =>
        refine List.nodup_append.mpr ⟨hkeys.filter _, h.deleted_nodup, ?_⟩
        intro token hnew other hold heq
        subst heq
        obtain ⟨⟨record, hfound⟩, -⟩ := Sweep.of_mem_deleted hnew
        cases hfound.symm.trans (h.deleted_gone token hold)
      case deleted_gone =>
        intro token hmem
        rcases List.mem_append.mp hmem with hnew | hold
        · exact (Sweep.of_mem_deleted hnew).2
        · exact hkeeps.find?_eq_none (h.deleted_gone token hold)

/-! ## What the sweeps have done so far -/

/-- Whether a record has been expired for the grace of a cycle that is over. -/
def isReaped (s : Overlap) (now : Instant) (record : Record) : Bool :=
  s.cycles.any fun cycle => cycle.isOver && Store.isPast cycle.grace now record

theorem isReaped_sweep (now : Instant) (hcycle : s.cycles[index]? = some cycle) (record : Record) :
    (s.sweep now index).isReaped now record =
      (s.isReaped now record ||
        (cycle.sweep now s.store).1.isOver && Store.isPast cycle.grace now record) := by
  -- a cycle that was over still is
  have hstill : cycle.isOver = true → (cycle.sweep now s.store).1.isOver = true := by
    obtain ⟨grace, progress⟩ := cycle
    cases progress <;> simp [ReaperCycle.isOver, ReaperCycle.sweep]
  rw [sweep_eq now hcycle, isReaped, ReaperCycle.any_set hcycle, cycle.sweep_grace]
  · rfl
  · rw [cycle.sweep_grace, Bool.and_eq_true, Bool.and_eq_true]
    exact And.imp_left hstill

/-- What a sweep does to all that is said of cycles, given what it does to its own cycle. -/
theorem sweep_spec (hcycle : s.cycles[index]? = some cycle) {next : ReaperCycle} {store : Store}
    (hsweep : cycle.sweep now s.store = (next, store)) :
    (s.sweep now index).store = store ∧
      (s.sweep now index).revoked + cycle.revoked = s.revoked + next.revoked ∧
      (s.sweep now index).deleted + cycle.deleted = s.deleted + next.deleted ∧
      (s.sweep now index).isReaped now =
        fun record =>
          s.isReaped now record || next.isOver && Store.isPast cycle.grace now record := by
  have hreaped := funext (isReaped_sweep now hcycle)
  rw [hsweep] at hreaped
  refine ⟨?_, ?_, ?_, hreaped⟩
  all_goals rw [sweep_eq now hcycle, hsweep]
  · exact ReaperCycle.total_set ReaperCycle.revoked hcycle next
  · exact ReaperCycle.total_set ReaperCycle.deleted hcycle next

/-- Some cycle has made its first sweep. -/
structure HasSwept (initial : Store) (now : Instant) (s : Overlap) : Prop where
  store_eq : s.store =
    (initial.revokeExpired now).2.filter fun record => !s.isReaped now record
  revoked_eq : s.revoked = initial.count (Store.isLapsed now)
  deleted_eq : s.deleted = initial.count (s.isReaped now)

/-- No cycle has made a sweep. -/
structure IsUnswept (initial : Store) (s : Overlap) : Prop where
  store_eq : s.store = initial
  waiting : ∀ cycle ∈ s.cycles, cycle.progress = .waiting

variable {initial : Store}

theorem HasSwept.isLapsed_eq_false (h : s.HasSwept initial now) (token : RefreshToken)
    (record : Record) (hfound : s.store.find? token = some record) :
    Store.isLapsed now record = false := by
  rw [h.store_eq, Store.find?_filter_eq] at hfound
  exact Store.isLapsed_eq_false_of_revokeExpired (Option.filter_eq_some_iff.mp hfound).1

theorem HasSwept.count_isPast (h : s.HasSwept initial now) (grace : Duration) :
    s.store.count (Store.isPast grace now) =
      initial.count fun record => !s.isReaped now record && Store.isPast grace now record := by
  rw [h.store_eq, Store.count_filter, Store.count_revokeExpired]
  intro record time
  rfl

/-- A cycle that makes its first sweep after others finds nothing to revoke. -/
theorem HasSwept.sweep_waiting (h : s.HasSwept initial now) {grace : Duration}
    (hcycle : s.cycles[index]? = some ⟨grace, .waiting⟩) :
    (s.sweep now index).HasSwept initial now := by
  have hsweep : ReaperCycle.sweep ⟨grace, .waiting⟩ now s.store =
      (⟨grace, .revoked 0⟩, s.store) := by
    rw [ReaperCycle.sweep, Store.revokeExpired_eq_self h.isLapsed_eq_false]
  obtain ⟨hstore, hrevoked, hdeleted, hreaped⟩ := sweep_spec hcycle hsweep
  have hsame : (s.sweep now index).isReaped now = s.isReaped now := by
    rw [hreaped]
    funext record
    exact Bool.or_false _
  constructor
  · rw [hstore, h.store_eq, hsame]
  · exact hrevoked.trans h.revoked_eq
  · rw [hsame]
    exact hdeleted.trans h.deleted_eq

/-- A cycle that makes its second sweep deletes what none has deleted so far. -/
theorem HasSwept.sweep_revoked (h : s.HasSwept initial now) {grace : Duration} {count : Nat}
    (hcycle : s.cycles[index]? = some ⟨grace, .revoked count⟩) (hgrace : 0 ≤ grace.nanos) :
    (s.sweep now index).HasSwept initial now := by
  have hsweep : ReaperCycle.sweep ⟨grace, .revoked count⟩ now s.store =
      (⟨grace, .ended ⟨count, s.store.count (Store.isPast grace now), []⟩⟩,
        s.store.filter fun record => !Store.isPast grace now record) := by
    rw [ReaperCycle.sweep, Store.deleteExpiredFor_eq s.store hgrace]
    rfl
  obtain ⟨hstore, hrevoked, hdeleted, hreaped⟩ := sweep_spec hcycle hsweep
  have hmore : (s.sweep now index).isReaped now =
      fun record => s.isReaped now record || Store.isPast grace now record := hreaped
  constructor
  · rw [hstore, h.store_eq, Store.filter_filter, hmore]
    simp only [Bool.not_or]
  · exact (Nat.add_right_cancel hrevoked).trans h.revoked_eq
  · rw [hmore, ← Store.count_add, ← h.count_isPast, ← h.deleted_eq]
    exact hdeleted

/-- A cycle that is over leaves the others and the store as they are. -/
theorem HasSwept.sweep_ended (h : s.HasSwept initial now) {grace : Duration} {report : ReapReport}
    (hcycle : s.cycles[index]? = some ⟨grace, .ended report⟩) :
    (s.sweep now index).HasSwept initial now := by
  obtain ⟨hlt, hget⟩ := List.getElem?_eq_some_iff.mp hcycle
  have hsame : s.sweep now index =
      { s with sweeps := ⟨index, s.store, s.store⟩ :: s.sweeps } := by
    rw [sweep_eq now hcycle]
    simp only [ReaperCycle.sweep, ← hget, List.set_getElem_self]
  rw [hsame]
  exact ⟨h.store_eq, h.revoked_eq, h.deleted_eq⟩

theorem HasSwept.sweep (h : s.HasSwept initial now)
    (hgraces : ∀ cycle ∈ s.cycles, 0 ≤ cycle.grace.nanos) (index : Nat) :
    (s.sweep now index).HasSwept initial now := by
  cases hcycle : s.cycles[index]? with
  | none =>
      rw [sweep_eq_self hcycle]
      exact h
  | some cycle =>
      have hgrace := hgraces cycle (List.mem_of_getElem? hcycle)
      obtain ⟨grace, progress⟩ := cycle
      cases progress with
      | waiting => exact h.sweep_waiting hcycle
      | revoked count => exact h.sweep_revoked hcycle hgrace
      | ended report => exact h.sweep_ended hcycle

theorem IsUnswept.nothing_done (h : s.IsUnswept initial) (now : Instant) :
    s.revoked = 0 ∧ s.deleted = 0 ∧ s.isReaped now = fun _ => false := by
  refine ⟨?_, ?_, ?_⟩
  · apply ReaperCycle.total_eq_zero
    intro cycle hcycle
    simp only [ReaperCycle.revoked, h.waiting cycle hcycle]
  · apply ReaperCycle.total_eq_zero
    intro cycle hcycle
    simp only [ReaperCycle.deleted, h.waiting cycle hcycle]
  · funext record
    apply List.any_eq_false.mpr
    intro cycle hcycle
    simp [ReaperCycle.isOver, h.waiting cycle hcycle]

/-- The first sweep of all is that of a cycle that was waiting. -/
theorem IsUnswept.sweep (h : s.IsUnswept initial) (hcycle : s.cycles[index]? = some cycle) :
    (s.sweep now index).HasSwept initial now := by
  have hwaiting := h.waiting cycle (List.mem_of_getElem? hcycle)
  obtain ⟨grace, progress⟩ := cycle
  cases hwaiting
  have hsweep : ReaperCycle.sweep ⟨grace, .waiting⟩ now s.store =
      (⟨grace, .revoked (initial.revokeExpired now).1⟩, (initial.revokeExpired now).2) := by
    rw [ReaperCycle.sweep, h.store_eq]
  obtain ⟨hstore, hrevoked, hdeleted, hreaped⟩ := sweep_spec hcycle hsweep
  obtain ⟨hnorevoked, hnodeleted, hnoreaped⟩ := h.nothing_done now
  have hnone : (s.sweep now index).isReaped now = fun _ => false := by
    rw [hreaped, hnoreaped]
    rfl
  constructor
  · rw [hstore, hnone, Store.filter_eq_self]
    intro token record _
    rfl
  · rw [hnorevoked] at hrevoked
    exact hrevoked.trans (Nat.zero_add _)
  · rw [hnodeleted] at hdeleted
    rw [hnone, Store.count_eq_zero]
    · exact hdeleted
    · intro token record _
      rfl

/-! ## The end of all cycles -/

theorem sweep_graces (s : Overlap) (now : Instant) (index : Nat) :
    (s.sweep now index).cycles.map ReaperCycle.grace = s.cycles.map ReaperCycle.grace := by
  cases hcycle : s.cycles[index]? with
  | none => rw [sweep_eq_self hcycle]
  | some cycle =>
      rw [sweep_eq now hcycle]
      obtain ⟨hlt, rfl⟩ := List.getElem?_eq_some_iff.mp hcycle
      have hmapped : index < (s.cycles.map ReaperCycle.grace).length := by rwa [List.length_map]
      rw [List.map_set, ReaperCycle.sweep_grace,
        ← List.getElem_map ReaperCycle.grace (h := hmapped), List.set_getElem_self]

/-- What holds of cycles from their start on, whatever sweeps they have made. -/
structure IsAlong (initial : Store) (now : Instant) (graces : List Duration) (s : Overlap) :
    Prop where
  graces_eq : s.cycles.map ReaperCycle.grace = graces
  countsOnce : s.CountsOnce
  phase : s.IsUnswept initial ∨ s.HasSwept initial now

theorem start_isAlong (store : Store) (now : Instant) (graces : List Duration) :
    (start store graces).IsAlong store now graces := by
  constructor
  · exact List.map_map.trans (List.map_id graces)
  · exact start_countsOnce store graces
  · refine .inl ⟨rfl, ?_⟩
    intro cycle hcycle
    obtain ⟨grace, -, rfl⟩ := List.mem_map.mp hcycle
    rfl

variable {graces : List Duration}

theorem IsAlong.sweep (h : s.IsAlong initial now graces)
    (hgraces : ∀ grace ∈ graces, 0 ≤ grace.nanos) (index : Nat) :
    (s.sweep now index).IsAlong initial now graces := by
  have hcycles : ∀ cycle ∈ s.cycles, 0 ≤ cycle.grace.nanos := by
    intro cycle hcycle
    apply hgraces
    rw [← h.graces_eq]
    exact List.mem_map_of_mem hcycle
  constructor
  · rw [sweep_graces, h.graces_eq]
  · exact h.countsOnce.sweep hcycles now index
  · rcases h.phase with hunswept | hswept
    · cases hcycle : s.cycles[index]? with
      | none =>
          rw [sweep_eq_self hcycle]
          exact .inl hunswept
      | some cycle => exact .inr (hunswept.sweep hcycle)
    · exact .inr (hswept.sweep hcycles index)

theorem IsAlong.run (h : s.IsAlong initial now graces)
    (hgraces : ∀ grace ∈ graces, 0 ≤ grace.nanos) (order : List Nat) :
    (s.run now order).IsAlong initial now graces := by
  induction order generalizing s with
  | nil => exact h
  | cons index order ih => exact ih (h.sweep hgraces index)

/-- Once all cycles are over, the shortest grace alone decides what has been deleted. -/
theorem IsAlong.isReaped_eq (h : s.IsAlong initial now graces)
    (hover : ∀ cycle ∈ s.cycles, cycle.isOver = true) {smallest : Duration}
    (hsmallest : smallest ∈ graces) (hleast : ∀ grace ∈ graces, smallest ≤ grace) :
    s.isReaped now = Store.isPast smallest now := by
  funext record
  rw [Bool.eq_iff_iff, isReaped, List.any_eq_true]
  constructor
  · rintro ⟨cycle, hcycle, hpast⟩
    have hgrace : cycle.grace ∈ graces := h.graces_eq ▸ List.mem_map_of_mem hcycle
    exact Store.isPast_of_le (hleast _ hgrace) (Bool.and_eq_true _ _ |>.mp hpast).2
  · intro hpast
    rw [← h.graces_eq] at hsmallest
    obtain ⟨cycle, hcycle, rfl⟩ := List.mem_map.mp hsmallest
    exact ⟨cycle, hcycle, by simp only [hover cycle hcycle, hpast, Bool.and_self]⟩

theorem IsAlong.hasSwept (h : s.IsAlong initial now graces)
    (hover : ∀ cycle ∈ s.cycles, cycle.isOver = true) {grace : Duration} (hgrace : grace ∈ graces) :
    s.HasSwept initial now := by
  rcases h.phase with hunswept | hswept
  · -- there is a cycle, and it is over without a sweep
    rw [← h.graces_eq] at hgrace
    obtain ⟨cycle, hcycle, -⟩ := List.mem_map.mp hgrace
    have hends := hover cycle hcycle
    simp [ReaperCycle.isOver, hunswept.waiting cycle hcycle] at hends
  · exact hswept

/-- After a deletion for some grace, a cycle with a grace that is not shorter finds nothing. -/
theorem HasSwept.reap_eq_self (h : s.HasSwept initial now) {smallest grace : Duration}
    (hreaped : s.isReaped now = Store.isPast smallest now) (hlength : 0 ≤ grace.nanos)
    (hleast : smallest ≤ grace) : s.store.reap grace now = (⟨0, 0, []⟩, s.store) := by
  have hkept : ∀ token record, s.store.find? token = some record →
      Store.isPast grace now record = false := by
    intro token record hfound
    rw [h.store_eq, Store.find?_filter_eq, hreaped] at hfound
    have hnot := (Option.filter_eq_some_iff.mp hfound).2
    apply Bool.eq_false_iff.mpr
    intro hpast
    simp [Store.isPast_of_le hleast hpast] at hnot
  have hall := Store.filter_eq_self fun token record hfound =>
    congrArg Bool.not (hkept token record hfound)
  rw [Store.reap_eq _ hlength, Store.revokeExpired_eq_self h.isLapsed_eq_false,
    Store.count_eq_zero hkept, hall]

/-- The cycles have done what a single one with the smallest of their graces does, and have counted
it among them. -/
structure IsHarmless (store : Store) (now : Instant) (graces : List Duration) (smallest : Duration)
    (s : Overlap) : Prop where
  store_eq : s.store = (store.reap smallest now).2
  revoked_eq : s.revoked = store.count fun record =>
    record.isActive && decide (record.expiresAt ≤ now)
  deleted_eq : s.deleted = store.count fun record =>
    decide (record.expiresAt.nanos ≤ now.nanos - smallest.nanos)
  counted : ∀ index cycle, s.cycles[index]? = some cycle →
    cycle.revoked = ((s.sweepsOf index).flatMap Sweep.revoked).length ∧
      cycle.deleted = ((s.sweepsOf index).flatMap Sweep.deleted).length
  revoked_nodup : (s.sweeps.flatMap Sweep.revoked).Nodup
  deleted_nodup : (s.sweeps.flatMap Sweep.deleted).Nodup
  again : ∀ grace ∈ graces, s.store.reap grace now = (⟨0, 0, []⟩, s.store)

/-- Any number of cycles that make their sweeps at one reading of the clock, in whatever order, do
what one cycle with the smallest of their graces does. -/
theorem run_isHarmless (store : Store) (now : Instant) (graces : List Duration)
    (smallest : Duration) (order : List Nat) (hsmallest : smallest ∈ graces)
    (hleast : ∀ grace ∈ graces, smallest ≤ grace) (hlength : 0 ≤ smallest.nanos)
    (hover : ∀ cycle ∈ ((start store graces).run now order).cycles, cycle.isOver = true) :
    ((start store graces).run now order).IsHarmless store now graces smallest := by
  have hgraces : ∀ grace ∈ graces, 0 ≤ grace.nanos := by
    intro grace hgrace
    have hle : smallest.nanos ≤ grace.nanos := hleast grace hgrace
    omega
  have halong := (start_isAlong store now graces).run hgraces order
  generalize (start store graces).run now order = s at halong hover ⊢
  have hswept := halong.hasSwept hover hsmallest
  have hreaped := halong.isReaped_eq hover hsmallest hleast
  constructor
  case store_eq => rw [hswept.store_eq, hreaped, Store.reap_eq store hlength]
  case revoked_eq => exact hswept.revoked_eq
  case deleted_eq =>
    rw [hswept.deleted_eq, hreaped]
    rfl
  case counted => exact halong.countsOnce.counted
  case revoked_nodup => exact halong.countsOnce.revoked_nodup
  case deleted_nodup => exact halong.countsOnce.deleted_nodup
  case again =>
    intro grace hgrace
    exact hswept.reap_eq_self hreaped (hgraces grace hgrace) (hleast grace hgrace)

/-- Three cycles over three records, of which two have expired. The second cycle is over before the
third begins and before the first deletes. -/
theorem nested_cycles_isHarmless :
    let holder : SecurityContext := ⟨⟨7, by decide, by decide⟩, .user⟩
    let at90 : Instant := ⟨90000000000, by decide, by decide⟩
    let store := Store.empty.run [.insert (.ofSeconds 60) .epoch ⟨"a"⟩ holder,
      .insert (.ofSeconds 85) .epoch ⟨"b"⟩ holder, .insert (.ofSeconds 95) .epoch ⟨"c"⟩ holder]
    let graces := [Duration.ofSeconds 30, .ofSeconds 10, .ofSeconds 20]
    let order := [0, 1, 1, 2, 0, 2]
    Duration.ofSeconds 10 ∈ graces ∧ (∀ grace ∈ graces, Duration.ofSeconds 10 ≤ grace) ∧
      0 ≤ (Duration.ofSeconds 10).nanos ∧
      (∀ cycle ∈ ((start store graces).run at90 order).cycles, cycle.isOver = true) ∧
      ((start store graces).run at90 order).IsHarmless store at90 graces (.ofSeconds 10) := by
  intro holder at90 store graces order
  have hsmallest : Duration.ofSeconds 10 ∈ graces := by decide
  have hleast : ∀ grace ∈ graces, Duration.ofSeconds 10 ≤ grace := by decide
  have hlength : 0 ≤ (Duration.ofSeconds 10).nanos := by decide
  have hover : ∀ cycle ∈ ((start store graces).run at90 order).cycles, cycle.isOver = true := by
    decide
  exact ⟨hsmallest, hleast, hlength, hover,
    run_isHarmless store at90 graces (.ofSeconds 10) order hsmallest hleast hlength hover⟩

end Overlap

end SessionTokens
