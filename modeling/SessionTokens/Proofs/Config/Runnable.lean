import SessionTokens.Config.AppConfig
import SessionTokens.Proofs.Service.Reaping

/-! # What passes its checks can run

The checks of a configuration bound its lifetimes by ten years. These bounds are all that the
conversions and the arithmetic on instants rely on later, so none of them fails as long as ten years
can still be added to the reading of the clock.
-/

namespace SessionTokens

open Time

/-! ## What the checks leave -/

namespace JwtConfig

/-- Whether all lifetimes of the section are within the limit. -/
structure IsWithinLimit (config : JwtConfig) : Prop where
  access_pos : 0 < config.accessLifetime
  access_le : config.accessLifetime ≤ greatestLifetime
  refresh_pos : 0 < config.refreshLifetime
  refresh_le : config.refreshLifetime ≤ greatestLifetime
  grace_nonneg : 0 ≤ config.deletionGrace
  grace_le : config.deletionGrace ≤ greatestLifetime

theorem isWithinLimit_of_validate {config : JwtConfig} (h : config.validate = .ok ()) :
    config.IsWithinLimit := by
  have hrules := SettingRule.checkAll_eq_ok.mp h
  simp [rules, lifetimes, SettingRule.require] at hrules
  obtain ⟨-, -, haccess, hrefresh, hgrace, haccessLe, hrefreshLe, hgraceLe⟩ := hrules
  exact ⟨haccess, haccessLe, hrefresh, hrefreshLe, hgrace, hgraceLe⟩

end JwtConfig

theorem ReaperConfig.interval_pos_of_validate {config : ReaperConfig}
    (h : config.validate = .ok ()) : 0 < config.interval := by
  have hrules := SettingRule.checkAll_eq_ok.mp h
  simp [rules, SettingRule.require] at hrules
  omega

theorem AppConfig.validate_eq_ok_iff {config : AppConfig} :
    config.validate = .ok () ↔
      config.jwt.validate = .ok () ∧ config.cache.validate = .ok () ∧
        config.reaper.validate = .ok () := by
  unfold AppConfig.validate
  cases config.jwt.validate <;> cases config.cache.validate <;> simp [bind, Except.bind]

/-! ## Lifetimes within the limit -/

/-- Whether ten years can still be added to an instant. -/
def HasTenYears (now : Instant) : Prop :=
  (now.add? (.ofSeconds greatestLifetime)).isSome = true

theorem ofSeconds?_of_le {seconds : Int} (hnonneg : 0 ≤ seconds) (hle : seconds ≤ greatestLifetime) :
    Duration.ofSeconds? seconds = some (.ofSeconds seconds) := by
  unfold Duration.ofSeconds?
  rw [if_pos]
  unfold Duration.longestSeconds
  unfold greatestLifetime at hle
  omega

/-- A lifetime within the limit ends at a representable instant, later than it began. -/
theorem exists_expiry {now : Instant} (hleft : HasTenYears now) {seconds : Int}
    (hpos : 0 < seconds) (hle : seconds ≤ greatestLifetime) :
    ∃ expiresAt, now.add? (.ofSeconds seconds) = some expiresAt ∧
      expiresAt.nanos = now.nanos + seconds * nanosPerSecond ∧ now < expiresAt := by
  obtain ⟨last, hlast⟩ := Option.isSome_iff_exists.mp hleft
  have hlastNanos := Instant.add?_eq_some.mp hlast
  -- the end lies between two instants that exist, so that it exists as well
  have hearliest := now.earliest_le
  have hlatest := last.le_latest
  unfold greatestLifetime at hle hlastNanos
  simp only [Duration.ofSeconds, nanosPerSecond] at hlastNanos ⊢
  refine ⟨⟨now.nanos + seconds * 1000000000, by omega, by omega⟩,
    Instant.add?_eq_some.mpr rfl, rfl, ?_⟩
  have hstep : now.nanos < now.nanos + seconds * 1000000000 := by omega
  exact hstep

/-! ## Running -/

/-- What a configuration is turned into, and that it works wherever ten years are left. -/
structure AppConfig.RunsAs (config : AppConfig) (service : ServiceConfig)
    (schedule : ReaperSchedule) (refreshLifetime : Duration) (cache : VerificationCache) : Prop where
  service_eq : config.jwt.service? = some service
  schedule_eq : config.reaper.schedule? config.jwt = some schedule
  refreshLifetime_eq : Duration.ofSeconds? config.jwt.refreshLifetime = some refreshLifetime
  cache_eq : VerificationCache.configured config.cache.enabled config.cache.budget
    service.accessLifetime = .ok cache
  accessLifetime_pos : 0 < service.accessLifetime.nanos
  interval_pos : 0 < schedule.interval.nanos
  grace_nonneg : 0 ≤ schedule.grace.nanos
  claims : ∀ context now, HasTenYears now →
    ∃ claims, Claims.forContext service.issuer context now service.accessLifetime = .ok claims ∧
      claims.issuedAt = now ∧ now < claims.expiresAt ∧
        claims.expiresAt.nanos = now.nanos + config.jwt.accessLifetime * nanosPerSecond
  record : ∀ token context now, HasTenYears now →
    ∃ record, Record.issue token context now refreshLifetime = .ok record ∧
      record.issuedAt = now ∧ now < record.expiresAt ∧
        record.expiresAt.nanos = now.nanos + config.jwt.refreshLifetime * nanosPerSecond
  /-- Whatever the cache does, only a refresh token that was drawn before stands in the way. -/
  generate : ∀ d : Deployment, d.config = service → d.refreshLifetime = refreshLifetime →
    d.signerWorks = true → d.refused = [] → HasTenYears d.clock.now → ∀ context,
      (∃ pair, (d.generate context).1 = .ok pair) ∨
        (d.generate context).1 = .error (.storage "Refresh token already exists") ∧
          (d.store.find? (d.ids d.drawn)).isSome

theorem configured_of_pos (enabled : Bool) (budget : Nat) {lifetime : Duration}
    (h : 0 < lifetime.nanos) :
    ∃ cache, VerificationCache.configured enabled budget lifetime = .ok cache := by
  unfold VerificationCache.configured
  cases enabled with
  | false => exact ⟨_, rfl⟩
  | true => exact ⟨_, if_pos h⟩

theorem ofSeconds_nanos_pos {seconds : Int} (h : 0 < seconds) :
    0 < (Duration.ofSeconds seconds).nanos := by
  simp only [Duration.ofSeconds, nanosPerSecond]
  omega

/-- A configuration that passes its checks can run. -/
theorem AppConfig.runs_of_validate (config : AppConfig) (h : config.validate = .ok ()) :
    ∃ service schedule refreshLifetime cache,
      config.RunsAs service schedule refreshLifetime cache := by
  obtain ⟨hjwt, -, hreaper⟩ := AppConfig.validate_eq_ok_iff.mp h
  have hlimit := JwtConfig.isWithinLimit_of_validate hjwt
  have hinterval := ReaperConfig.interval_pos_of_validate hreaper
  have haccess := ofSeconds?_of_le (Int.le_of_lt hlimit.access_pos) hlimit.access_le
  have hrefresh := ofSeconds?_of_le (Int.le_of_lt hlimit.refresh_pos) hlimit.refresh_le
  have hgrace := ofSeconds?_of_le hlimit.grace_nonneg hlimit.grace_le
  have hlifetime := ofSeconds_nanos_pos hlimit.access_pos
  obtain ⟨cache, hcache⟩ := configured_of_pos config.cache.enabled config.cache.budget hlifetime
  refine ⟨_, _, _, cache, {
    service_eq := by rw [JwtConfig.service?, haccess, Option.map_some]
    schedule_eq := by rw [ReaperConfig.schedule?, hgrace, Option.map_some]
    refreshLifetime_eq := hrefresh
    cache_eq := hcache
    accessLifetime_pos := hlifetime
    interval_pos := ofSeconds_nanos_pos (Int.natCast_pos.mpr hinterval)
    grace_nonneg := ?grace
    claims := ?claims
    record := ?record
    generate := ?generate }⟩
  case grace =>
    have hgraceNonneg := hlimit.grace_nonneg
    simp only [Duration.ofSeconds, nanosPerSecond]
    omega
  case claims =>
    intro context now hleft
    obtain ⟨expiresAt, hadd, hnanos, hlater⟩ :=
      exists_expiry hleft hlimit.access_pos hlimit.access_le
    rw [Claims.forContext, hadd]
    exact ⟨_, rfl, rfl, hlater, hnanos⟩
  case record =>
    intro token context now hleft
    obtain ⟨expiresAt, hadd, hnanos, hlater⟩ :=
      exists_expiry hleft hlimit.refresh_pos hlimit.refresh_le
    rw [Record.issue, hadd]
    exact ⟨_, rfl, rfl, hlater, hnanos⟩
  case generate =>
    -- nothing is refused, so that of all stages only the insertion is left to fail
    intro d hservice hlifetime hsigner hrefused hleft context
    obtain ⟨_, haccessExpiry, -⟩ := exists_expiry hleft hlimit.access_pos hlimit.access_le
    obtain ⟨_, hrefreshExpiry, -⟩ := exists_expiry hleft hlimit.refresh_pos hlimit.refresh_le
    have hissue : d.CanIssue :=
      { signs := hsigner
        accessExpiry := by rw [hservice, haccessExpiry]; rfl
        refreshExpiry := by rw [hlifetime, hrefreshExpiry]; rfl }
    exact hissue.generate_cases hrefused context

/-- All lifetimes are ten years, the cache is on and has room for one byte. -/
theorem AppConfig.longest_lifetimes_run :
    let config : AppConfig :=
      { jwt :=
          { accessLifetime := greatestLifetime
            refreshLifetime := greatestLifetime
            deletionGrace := greatestLifetime }
        cache := { budget := 1 } }
    config.validate = .ok () ∧
      ∃ service schedule refreshLifetime cache,
        config.RunsAs service schedule refreshLifetime cache := by
  intro config
  have hvalid : config.validate = .ok () := rfl
  exact ⟨hvalid, config.runs_of_validate hvalid⟩

end SessionTokens
