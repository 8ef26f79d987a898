import SessionTokens.Config.Logging
import SessionTokens.Config.Sections

/-! # A whole configuration -/

namespace SessionTokens

/-- All settings of a deployment. -/
structure AppConfig where
  environment : Environment := .development
  jwt : JwtConfig := {}
  cache : CacheConfig := {}
  database : DatabaseConfig := {}
  reaper : ReaperConfig := {}
  logging : LoggingConfig := {}
  deriving DecidableEq, Repr

namespace AppConfig

/-- What holds where nothing is configured, with the log of a development deployment. -/
def builtIn : AppConfig := { logging := .forEnvironment .development }

/-- The settings of a development deployment. -/
def development : AppConfig :=
  { builtIn with database := { url := "mysql://localhost:3306/picshare_dev" } }

/-- The settings of a production deployment. -/
def production : AppConfig :=
  { builtIn with
    environment := .production
    jwt := { secret := "use-env-variable" }
    database := { url := "mysql://prod-db:3306/picshare", maxConnections := 50 }
    logging := .forEnvironment .production }

/-- The settings that suit an environment. Staging has those of development but for its log. -/
def preset : Environment → AppConfig
  | .development => development
  | .staging =>
      { development with environment := .staging, logging := .forEnvironment .staging }
  | .production => production

/-- Checks the sections in which a service can be told nonsense. -/
def validate (config : AppConfig) : Except ConfigError Unit := do
  config.jwt.validate
  config.cache.validate
  config.reaper.validate

end AppConfig

end SessionTokens
