import SessionTokens.Service.Reaper
import SessionTokens.Service.TokenService
import SessionTokens.Text.Utf8

/-! # Settings by section

Every setting has a default. A section is valid when none of its rules is broken; of several broken
rules the first one is reported.
-/

namespace SessionTokens

open Text Time

/-- Why there is no configuration. -/
inductive ConfigError where
  /-- The settings cannot be read. -/
  | unreadable
  /-- A path leads to a place that a list cannot have. -/
  | impossiblePlace
  /-- A setting has a value that it may not have. -/
  | invalid (key problem : String)
  deriving DecidableEq, Repr

/-- The wording of a configuration error. -/
def ConfigError.message : ConfigError → String
  | .unreadable => "Failed to load configuration"
  | .impossiblePlace => "A path leads to a place that a list cannot have"
  | .invalid key problem => s!"Invalid configuration value for {key}: {problem}"

/-- A rule about a setting: the setting, what is wrong when the rule is broken, and whether it
holds. -/
structure SettingRule where
  key : String
  problem : String
  holds : Bool

namespace SettingRule

/-- The rule that a setting may not have some value. -/
def require (key : String) (problem : String) (condition : Prop) [Decidable condition] :
    SettingRule :=
  ⟨key, problem, decide condition⟩

/-- Checks rules in order. -/
def checkAll : List SettingRule → Except ConfigError Unit
  | [] => .ok ()
  | rule :: rest => if rule.holds then checkAll rest else .error (.invalid rule.key rule.problem)

theorem checkAll_eq_ok {rules : List SettingRule} :
    checkAll rules = .ok () ↔ ∀ rule ∈ rules, rule.holds = true := by
  induction rules with
  | nil => simp [checkAll]
  | cons rule rest ih =>
      rw [checkAll]
      split
      next h => simp [h, ih]
      next h => simp [h]

end SettingRule

/-- The key that is used when none was configured. -/
def defaultSecret : String := "development-secret-please-change-in-production"

/-- The longest lifetime that may be configured, in seconds: ten years. -/
def greatestLifetime : Int := 10 * 365 * 86400

/-- Settings of the tokens. Lifetimes are in seconds. -/
structure JwtConfig where
  issuer : String := "picshare"
  secret : String := defaultSecret
  accessLifetime : Int := 900
  refreshLifetime : Int := 2592000
  /-- For how long an expired refresh token is kept. -/
  deletionGrace : Int := 2592000
  deriving DecidableEq

namespace JwtConfig

/-- A debugging text that does not give the key away. -/
def masked (config : JwtConfig) : String :=
  "JwtConfig \x7b issuer: \"" ++ config.issuer ++ "\", secret: \"<redacted>\", " ++
    s!"access_token_expiry: {config.accessLifetime}, " ++
    s!"refresh_token_expiry: {config.refreshLifetime}, " ++
    s!"refresh_token_deletion_grace: {config.deletionGrace} " ++ "\x7d"

instance : Repr JwtConfig := ⟨fun config _ => config.masked⟩

/-- The access lifetime as a number of minutes. -/
def withAccessMinutes (config : JwtConfig) (minutes : Int) : JwtConfig :=
  { config with accessLifetime := minutes * 60 }

/-- The refresh lifetime as a number of days. -/
def withRefreshDays (config : JwtConfig) (days : Int) : JwtConfig :=
  { config with refreshLifetime := days * 86400 }

/-- Whether the key is the one that is used when none was configured. -/
def usesDefaultSecret (config : JwtConfig) : Bool := config.secret == defaultSecret

/-- The settings that are lifetimes, with their keys. -/
def lifetimes (config : JwtConfig) : List (String × Int) := [
  ("jwt.access_token_expiry", config.accessLifetime),
  ("jwt.refresh_token_expiry", config.refreshLifetime),
  ("jwt.refresh_token_deletion_grace", config.deletionGrace)]

/-- The rules of the section. -/
def rules (config : JwtConfig) : List SettingRule := [
  .require "jwt.secret" "must not be empty" (config.secret ≠ ""),
  .require "jwt.issuer" "must not be empty" (config.issuer ≠ ""),
  .require "jwt.access_token_expiry" "must be positive" (0 < config.accessLifetime),
  .require "jwt.refresh_token_expiry" "must be positive" (0 < config.refreshLifetime),
  .require "jwt.refresh_token_deletion_grace" "must not be negative" (0 ≤ config.deletionGrace)] ++
  config.lifetimes.map fun (key, seconds) =>
    .require key "must not exceed ten years" (seconds ≤ greatestLifetime)

/-- Checks the section. -/
def validate (config : JwtConfig) : Except ConfigError Unit := SettingRule.checkAll config.rules

/-- The service of these settings, if the access lifetime can be represented. -/
def service? (config : JwtConfig) : Option ServiceConfig :=
  (Duration.ofSeconds? config.accessLifetime).map fun accessLifetime => {
    issuer := config.issuer
    secret := ⟨Utf8.encode config.secret.toList⟩
    accessLifetime }

end JwtConfig

/-- Settings of the verification cache. -/
structure CacheConfig where
  enabled : Bool := true
  /-- The budget of weight, in bytes. -/
  budget : Nat := 104857600
  deriving DecidableEq, Repr

namespace CacheConfig

/-- A cache that is off. -/
def disabled : CacheConfig := { enabled := false }

/-- The budget as a number of megabytes. -/
def withMegabytes (config : CacheConfig) (megabytes : Nat) : CacheConfig :=
  { config with budget := megabytes * 1024 * 1024 }

/-- The rules of the section. -/
def rules (config : CacheConfig) : List SettingRule := [
  .require "cache.max_weight_bytes" "must be positive when the cache is enabled"
    (¬(config.enabled ∧ config.budget = 0))]

/-- Checks the section. -/
def validate (config : CacheConfig) : Except ConfigError Unit := SettingRule.checkAll config.rules

end CacheConfig

/-- Settings of the database. Times are in seconds, the threshold of a slow query in
milliseconds. -/
structure DatabaseConfig where
  url : String := "mysql://localhost:3306/picshare"
  maxConnections : Nat := 10
  connectTimeout : Nat := 30
  idleTimeout : Nat := 600
  maxLifetime : Nat := 1800
  slowQueryThreshold : Nat := 1000
  deriving DecidableEq, Repr

/-- Settings of the reaper. -/
structure ReaperConfig where
  enabled : Bool := true
  /-- The seconds between two cycles. -/
  interval : Nat := 86400
  deriving DecidableEq, Repr

namespace ReaperConfig

/-- The rules of the section. -/
def rules (config : ReaperConfig) : List SettingRule := [
  .require "reaper.interval_seconds" "must be positive" (config.interval ≠ 0)]

/-- Checks the section. -/
def validate (config : ReaperConfig) : Except ConfigError Unit := SettingRule.checkAll config.rules

/-- The schedule of these settings, if the grace can be represented. -/
def schedule? (config : ReaperConfig) (jwt : JwtConfig) : Option ReaperSchedule :=
  (Duration.ofSeconds? jwt.deletionGrace).map fun grace =>
    ⟨config.enabled, .ofSeconds config.interval, grace⟩

end ReaperConfig

end SessionTokens
