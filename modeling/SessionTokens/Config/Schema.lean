import SessionTokens.Config.AppConfig
import SessionTokens.Json.Fields

/-! # The names of the settings

A configuration is written as a table of sections, and a section as a table of settings. Where the
tables come from is left open: `SettingSource` says how the values of one kind of source are read,
and `AppConfig.read` reads a configuration from any of them. What is missing has its default; only
a database section has to name a URL.
-/

namespace SessionTokens

open Json Text

/-- How values of type `ν` are read as settings. -/
structure SettingSource (ν : Type) where
  /-- The values of a table under the given names. -/
  table? : List String → ν → Option (String → Option ν)
  text? : ν → Option String
  flag? : ν → Option Bool
  signed? : ν → Option Int
  unsigned? : ν → Option Nat
  /-- A natural number of at most 32 bits. -/
  unsigned32? : ν → Option Nat
  /-- The name of one choice out of several. -/
  choice? : ν → Option String

namespace SettingSource

/-- Reads one value of a table, if it is there. -/
def getD (values : String → Option ν) (name : String) (default : α) (read : ν → Option α) :
    Option α :=
  match values name with
  | none => some default
  | some value => read value

end SettingSource

open SettingSource

variable {ν : Type} (source : SettingSource ν)

/-- Reads a token section. -/
def JwtConfig.read (value : ν) : Option JwtConfig := do
  let values ← source.table? ["issuer", "secret", "access_token_expiry", "refresh_token_expiry",
    "refresh_token_deletion_grace"] value
  let defaults : JwtConfig := {}
  let issuer ← getD values "issuer" defaults.issuer source.text?
  let secret ← getD values "secret" defaults.secret source.text?
  let accessLifetime ← getD values "access_token_expiry" defaults.accessLifetime source.signed?
  let refreshLifetime ← getD values "refresh_token_expiry" defaults.refreshLifetime source.signed?
  let deletionGrace ←
    getD values "refresh_token_deletion_grace" defaults.deletionGrace source.signed?
  some { issuer, secret, accessLifetime, refreshLifetime, deletionGrace }

/-- Reads a cache section. -/
def CacheConfig.read (value : ν) : Option CacheConfig := do
  let values ← source.table? ["enabled", "max_weight_bytes"] value
  let defaults : CacheConfig := {}
  let enabled ← getD values "enabled" defaults.enabled source.flag?
  let budget ← getD values "max_weight_bytes" defaults.budget source.unsigned?
  some { enabled, budget }

/-- Reads a database section, which has to name a URL. -/
def DatabaseConfig.read (value : ν) : Option DatabaseConfig := do
  let values ← source.table? ["url", "max_connections", "connect_timeout", "idle_timeout",
    "max_lifetime", "slow_query_threshold"] value
  let defaults : DatabaseConfig := {}
  let url ← (values "url").bind source.text?
  let maxConnections ←
    getD values "max_connections" defaults.maxConnections source.unsigned32?
  let connectTimeout ← getD values "connect_timeout" defaults.connectTimeout source.unsigned?
  let idleTimeout ← getD values "idle_timeout" defaults.idleTimeout source.unsigned?
  let maxLifetime ← getD values "max_lifetime" defaults.maxLifetime source.unsigned?
  let slowQueryThreshold ←
    getD values "slow_query_threshold" defaults.slowQueryThreshold source.unsigned?
  some { url, maxConnections, connectTimeout, idleTimeout, maxLifetime, slowQueryThreshold }

/-- Reads a reaper section. -/
def ReaperConfig.read (value : ν) : Option ReaperConfig := do
  let values ← source.table? ["enabled", "interval_seconds"] value
  let defaults : ReaperConfig := {}
  let enabled ← getD values "enabled" defaults.enabled source.flag?
  let interval ← getD values "interval_seconds" defaults.interval source.unsigned?
  some { enabled, interval }

/-- Reads a log section. -/
def LoggingConfig.read (value : ν) : Option LoggingConfig := do
  let values ← source.table? ["level", "format", "colored", "source_location"] value
  let defaults : LoggingConfig := {}
  let level ← getD values "level" defaults.level source.text?
  let format ←
    getD values "format" defaults.format fun value => (source.choice? value).bind LogFormat.ofName?
  let colored ← getD values "colored" defaults.colored source.flag?
  let sourceLocation ← getD values "source_location" defaults.sourceLocation source.flag?
  some { level, format, colored, sourceLocation }

/-- Reads a configuration. -/
def AppConfig.read (value : ν) : Option AppConfig := do
  let values ←
    source.table? ["environment", "jwt", "cache", "database", "reaper", "logging"] value
  let defaults : AppConfig := {}
  let environment ← getD values "environment" defaults.environment fun value =>
    (source.choice? value).bind Environment.ofName?
  let jwt ← getD values "jwt" defaults.jwt (JwtConfig.read source)
  let cache ← getD values "cache" defaults.cache (CacheConfig.read source)
  let database ← getD values "database" defaults.database (DatabaseConfig.read source)
  let reaper ← getD values "reaper" defaults.reaper (ReaperConfig.read source)
  let logging ← getD values "logging" defaults.logging (LoggingConfig.read source)
  some { environment, jwt, cache, database, reaper, logging }

/-- JSON as a source of settings. -/
def SettingSource.json : SettingSource Json where
  table? names value := (fields names value).map fun f name => f.get? name
  text? := readText
  flag? := readBool
  signed? := readInt .signed64
  unsigned? value := (readInt .unsigned64 value).map Int.toNat
  unsigned32? value := (readInt .unsigned32 value).map Int.toNat
  choice? := readUnitName

/-- A token section in JSON. -/
def JwtConfig.toJson (config : JwtConfig) : Json := .ofMembers [
  ("issuer", .ofString config.issuer),
  ("secret", .ofString config.secret),
  ("access_token_expiry", .ofInt config.accessLifetime),
  ("refresh_token_expiry", .ofInt config.refreshLifetime),
  ("refresh_token_deletion_grace", .ofInt config.deletionGrace)]

/-- A cache section in JSON. -/
def CacheConfig.toJson (config : CacheConfig) : Json := .ofMembers [
  ("enabled", .bool config.enabled),
  ("max_weight_bytes", .ofInt config.budget)]

/-- A database section in JSON. -/
def DatabaseConfig.toJson (config : DatabaseConfig) : Json := .ofMembers [
  ("url", .ofString config.url),
  ("max_connections", .ofInt config.maxConnections),
  ("connect_timeout", .ofInt config.connectTimeout),
  ("idle_timeout", .ofInt config.idleTimeout),
  ("max_lifetime", .ofInt config.maxLifetime),
  ("slow_query_threshold", .ofInt config.slowQueryThreshold)]

/-- A reaper section in JSON. -/
def ReaperConfig.toJson (config : ReaperConfig) : Json := .ofMembers [
  ("enabled", .bool config.enabled),
  ("interval_seconds", .ofInt config.interval)]

/-- A log section in JSON. -/
def LoggingConfig.toJson (config : LoggingConfig) : Json := .ofMembers [
  ("level", .ofString config.level),
  ("format", .ofString config.format.name),
  ("colored", .bool config.colored),
  ("source_location", .bool config.sourceLocation)]

/-- A configuration in JSON. -/
def AppConfig.toJson (config : AppConfig) : Json := .ofMembers [
  ("environment", .ofString config.environment.name),
  ("jwt", config.jwt.toJson),
  ("cache", config.cache.toJson),
  ("database", config.database.toJson),
  ("reaper", config.reaper.toJson),
  ("logging", config.logging.toJson)]

end SessionTokens
