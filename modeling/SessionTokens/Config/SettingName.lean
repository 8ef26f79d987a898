import SessionTokens.Config.Layered

/-! # The settings one by one

A configuration consists of twenty settings. A setting stands in a section or beside the sections,
has a name there, and a value of one of a few kinds. So whatever holds of every setting can be said
once.
-/

namespace SessionTokens

open Text

/-- The sections of a configuration. -/
inductive ConfigSection where
  | jwt
  | cache
  | database
  | reaper
  | logging
  deriving DecidableEq, Repr

namespace ConfigSection

/-- The name of a section. -/
def name : ConfigSection → String
  | .jwt => "jwt"
  | .cache => "cache"
  | .database => "database"
  | .reaper => "reaper"
  | .logging => "logging"

/-- The names of the settings of a section, in order. -/
def settingNames : ConfigSection → List String
  | .jwt => ["issuer", "secret", "access_token_expiry", "refresh_token_expiry",
      "refresh_token_deletion_grace"]
  | .cache => ["enabled", "max_weight_bytes"]
  | .database => ["url", "max_connections", "connect_timeout", "idle_timeout", "max_lifetime",
      "slow_query_threshold"]
  | .reaper => ["enabled", "interval_seconds"]
  | .logging => ["level", "format", "colored", "source_location"]

end ConfigSection

/-- The names of what a configuration is made of, in order. -/
def AppConfig.memberNames : List String :=
  ["environment", "jwt", "cache", "database", "reaper", "logging"]

/-- The kinds of values that settings have. -/
inductive SettingKind where
  | text
  | flag
  | signed
  | natural
  /-- A natural number of at most 32 bits. -/
  | natural32
  | environment
  | format
  deriving DecidableEq, Repr

namespace SettingKind

/-- The values of a kind. -/
@[reducible] def Value : SettingKind → Type
  | .text => String
  | .flag => Bool
  | .signed => Int
  | .natural | .natural32 => Nat
  | .environment => Environment
  | .format => LogFormat

/-- Whether a value is within the range of its kind. -/
def Fits : (kind : SettingKind) → kind.Value → Prop
  | .signed, value => IntegerBounds.signed64.contains value = true
  | .natural, value => IntegerBounds.unsigned64.contains (value : Nat) = true
  | .natural32, value => IntegerBounds.unsigned32.contains (value : Nat) = true
  | .text, _ | .flag, _ | .environment, _ | .format, _ => True

/-- A value in JSON. -/
def toJson : (kind : SettingKind) → kind.Value → Json
  | .text, value => .ofString value
  | .flag, value => .bool value
  | .signed, value => .ofInt value
  | .natural, value | .natural32, value => .ofInt (value : Nat)
  | .environment, value => .ofString value.name
  | .format, value => .ofString value.name

/-- A value in a settings file. -/
def toSetting : (kind : SettingKind) → kind.Value → Setting
  | .text, value => .text value
  | .flag, value => .flag value
  | .signed, value => .integer value
  | .natural, value | .natural32, value => .integer (value : Nat)
  | .environment, value => .text value.name
  | .format, value => .text value.name

/-- A value in a variable. -/
def toVariable : (kind : SettingKind) → kind.Value → String
  | .text, value => value
  | .flag, value => if value then "true" else "false"
  | .signed, value => String.ofList (intDigits value)
  | .natural, value | .natural32, value => String.ofList (natDigits value)
  | .environment, value => value.name
  | .format, value => value.name

end SettingKind

/-- How values of a kind are read from a source. -/
def SettingSource.readKind {ν : Type} (source : SettingSource ν) :
    (kind : SettingKind) → ν → Option kind.Value
  | .text, found => source.text? found
  | .flag, found => source.flag? found
  | .signed, found => source.signed? found
  | .natural, found => source.unsigned? found
  | .natural32, found => source.unsigned32? found
  | .environment, found => (source.choice? found).bind Environment.ofName?
  | .format, found => (source.choice? found).bind LogFormat.ofName?

/-- The settings of a configuration. -/
inductive SettingName where
  | environment
  | issuer
  | secret
  | accessLifetime
  | refreshLifetime
  | deletionGrace
  | cacheEnabled
  | cacheBudget
  | databaseUrl
  | maxConnections
  | connectTimeout
  | idleTimeout
  | maxLifetime
  | slowQueryThreshold
  | reaperEnabled
  | reaperInterval
  | logLevel
  | logFormat
  | logColored
  | logSourceLocation
  deriving DecidableEq, Repr

namespace SettingName

/-- All settings. -/
def all : List SettingName := [
  .environment, .issuer, .secret, .accessLifetime, .refreshLifetime, .deletionGrace, .cacheEnabled,
  .cacheBudget, .databaseUrl, .maxConnections, .connectTimeout, .idleTimeout, .maxLifetime,
  .slowQueryThreshold, .reaperEnabled, .reaperInterval, .logLevel, .logFormat, .logColored,
  .logSourceLocation]

/-- The section that a setting is in. -/
def section? : SettingName → Option ConfigSection
  | .environment => none
  | .issuer | .secret | .accessLifetime | .refreshLifetime | .deletionGrace => some .jwt
  | .cacheEnabled | .cacheBudget => some .cache
  | .databaseUrl | .maxConnections | .connectTimeout | .idleTimeout | .maxLifetime
  | .slowQueryThreshold => some .database
  | .reaperEnabled | .reaperInterval => some .reaper
  | .logLevel | .logFormat | .logColored | .logSourceLocation => some .logging

/-- The name of a setting where it stands. -/
def name : SettingName → String
  | .environment => "environment"
  | .issuer => "issuer"
  | .secret => "secret"
  | .accessLifetime => "access_token_expiry"
  | .refreshLifetime => "refresh_token_expiry"
  | .deletionGrace => "refresh_token_deletion_grace"
  | .cacheEnabled => "enabled"
  | .cacheBudget => "max_weight_bytes"
  | .databaseUrl => "url"
  | .maxConnections => "max_connections"
  | .connectTimeout => "connect_timeout"
  | .idleTimeout => "idle_timeout"
  | .maxLifetime => "max_lifetime"
  | .slowQueryThreshold => "slow_query_threshold"
  | .reaperEnabled => "enabled"
  | .reaperInterval => "interval_seconds"
  | .logLevel => "level"
  | .logFormat => "format"
  | .logColored => "colored"
  | .logSourceLocation => "source_location"

/-- The kind of the values of a setting. -/
@[reducible] def kind : SettingName → SettingKind
  | .issuer | .secret | .databaseUrl | .logLevel => .text
  | .cacheEnabled | .reaperEnabled | .logColored | .logSourceLocation => .flag
  | .accessLifetime | .refreshLifetime | .deletionGrace => .signed
  | .cacheBudget | .connectTimeout | .idleTimeout | .maxLifetime | .slowQueryThreshold
  | .reaperInterval => .natural
  | .maxConnections => .natural32
  | .environment => .environment
  | .logFormat => .format

/-- Where a setting stands in a tree of settings. -/
def path (setting : SettingName) : List Setting.Step :=
  match setting.section? with
  | none => [.child setting.name]
  | some place => [.child place.name, .child setting.name]

/-- The key of a setting. -/
def key (setting : SettingName) : String :=
  match setting.section? with
  | none => setting.name
  | some place => place.name ++ "." ++ setting.name

/-- The value of a setting in a configuration. -/
def get (config : AppConfig) : (setting : SettingName) → setting.kind.Value
  | .environment => config.environment
  | .issuer => config.jwt.issuer
  | .secret => config.jwt.secret
  | .accessLifetime => config.jwt.accessLifetime
  | .refreshLifetime => config.jwt.refreshLifetime
  | .deletionGrace => config.jwt.deletionGrace
  | .cacheEnabled => config.cache.enabled
  | .cacheBudget => config.cache.budget
  | .databaseUrl => config.database.url
  | .maxConnections => config.database.maxConnections
  | .connectTimeout => config.database.connectTimeout
  | .idleTimeout => config.database.idleTimeout
  | .maxLifetime => config.database.maxLifetime
  | .slowQueryThreshold => config.database.slowQueryThreshold
  | .reaperEnabled => config.reaper.enabled
  | .reaperInterval => config.reaper.interval
  | .logLevel => config.logging.level
  | .logFormat => config.logging.format
  | .logColored => config.logging.colored
  | .logSourceLocation => config.logging.sourceLocation

end SettingName

/-- The configuration of a value for every setting. -/
def AppConfig.ofSettings (value : (setting : SettingName) → setting.kind.Value) : AppConfig where
  environment := value .environment
  jwt := {
    issuer := value .issuer
    secret := value .secret
    accessLifetime := value .accessLifetime
    refreshLifetime := value .refreshLifetime
    deletionGrace := value .deletionGrace }
  cache := { enabled := value .cacheEnabled, budget := value .cacheBudget }
  database := {
    url := value .databaseUrl
    maxConnections := value .maxConnections
    connectTimeout := value .connectTimeout
    idleTimeout := value .idleTimeout
    maxLifetime := value .maxLifetime
    slowQueryThreshold := value .slowQueryThreshold }
  reaper := { enabled := value .reaperEnabled, interval := value .reaperInterval }
  logging := {
    level := value .logLevel
    format := value .logFormat
    colored := value .logColored
    sourceLocation := value .logSourceLocation }

theorem SettingName.get_ofSettings (value : (setting : SettingName) → setting.kind.Value)
    (setting : SettingName) : setting.get (.ofSettings value) = value setting := by
  cases setting <;> rfl

theorem AppConfig.ofSettings_get (config : AppConfig) :
    AppConfig.ofSettings (fun setting => setting.get config) = config := rfl

/-- Some of the settings, each with a value. -/
abbrev GivenSettings := (setting : SettingName) → Option setting.kind.Value

/-- The configuration of some settings, where all others are as in another one. -/
def GivenSettings.complete (given : GivenSettings) (defaults : AppConfig) : AppConfig :=
  .ofSettings fun setting => (given setting).getD (setting.get defaults)

end SessionTokens
