import SessionTokens.Config.Layered
import SessionTokens.Proofs.Config.Merging
import SessionTokens.Proofs.Config.PlainVariables
import SessionTokens.Proofs.Config.Runnable
import SessionTokens.Proofs.Jwt.RoundTrip

/-! # Settings that are texts

The last layer of a configuration respells the texts of its variables, and plain variables do not.
So a text setting keeps its variable, and both ways of loading give one key, exactly if the text is
its own spelling.
-/

namespace SessionTokens

open Text Time

/-! ## One setting in the variables -/

namespace Variables

/-- Whether no variable of a list stands for a setting. -/
def NoSettings (vars : Variables) : Prop := ∀ entry ∈ vars, settingKey? entry.1 = none

theorem NoSettings.settings_eq_nil {vars : Variables} (h : NoSettings vars) : settings vars = [] := by
  rw [Variables.settings, List.filterMap_eq_nil_iff]
  rintro ⟨name, value⟩ hentry
  simp only [h _ hentry, Option.map_none]

theorem settings_among {before after : Variables} (hbefore : NoSettings before)
    (hafter : NoSettings after) {name key : String} (hkey : settingKey? name = some key)
    (value : String) :
    Variables.settings (before ++ (name, value) :: after) = [(key, Setting.ofText value)] := by
  have hnone := hbefore.settings_eq_nil
  have hrest := hafter.settings_eq_nil
  rw [Variables.settings] at hnone hrest ⊢
  rw [List.filterMap_append, List.filterMap_cons, hnone, hrest]
  simp only [hkey, Option.map_some, List.nil_append]

end Variables

/-- The settings that are texts and have a variable in the last layer. -/
inductive TextSetting where
  | secret
  | issuer
  | logLevel
  | databaseUrl
  deriving DecidableEq, Repr

namespace TextSetting

/-- The name of the variable that sets a setting. -/
def variableName : TextSetting → String
  | .secret => "PS__JWT__SECRET"
  | .issuer => "PS__JWT__ISSUER"
  | .logLevel => "PS__LOGGING__LEVEL"
  | .databaseUrl => "PS__DATABASE__URL"

/-- The section that a setting is in. -/
def sectionName : TextSetting → String
  | .secret | .issuer => "jwt"
  | .logLevel => "logging"
  | .databaseUrl => "database"

/-- The name of a setting within its section. -/
def name : TextSetting → String
  | .secret => "secret"
  | .issuer => "issuer"
  | .logLevel => "level"
  | .databaseUrl => "url"

/-- The value of a setting in a configuration. -/
def get (config : AppConfig) : TextSetting → String
  | .secret => config.jwt.secret
  | .issuer => config.jwt.issuer
  | .logLevel => config.logging.level
  | .databaseUrl => config.database.url

/-- A configuration with another value of a setting. -/
def set (config : AppConfig) (value : String) : TextSetting → AppConfig
  | .secret => { config with jwt := { config.jwt with secret := value } }
  | .issuer => { config with jwt := { config.jwt with issuer := value } }
  | .logLevel => { config with logging := { config.logging with level := value } }
  | .databaseUrl => { config with database := { config.database with url := value } }

theorem get_set (config : AppConfig) (value : String) (setting : TextSetting) :
    setting.get (setting.set config value) = value := by
  cases setting <;> rfl

/-- The key that the variable of a setting is turned into leads to the place of the setting. -/
theorem exists_key (setting : TextSetting) :
    ∃ key, settingKey? setting.variableName = some key ∧
      Setting.pathOf key = [.child setting.sectionName, .child setting.name] := by
  cases setting <;> exact ⟨_, by rfl, by decide⟩

/-- The tree of settings with one setting beside the environment. -/
def tree (setting : TextSetting) (environment : Environment) (value : Setting) : Setting :=
  .table [
    ("environment", .text environment.name),
    (setting.sectionName, .table [(setting.name, value)])]

theorem assign?_eq_tree (setting : TextSetting) (environment : Environment) {value : Setting}
    {text : String} (h : value.toText? = some text) :
    Setting.assign? value [.child setting.sectionName, .child setting.name]
      (.put "environment" (.text environment.name) (.table [])) =
        some (setting.tree environment value) := by
  have henvironment := Setting.put_eq
    (Setting.isWhole_of_toText? (rfl : (Setting.text environment.name).toText? = some _))
    "environment" (.table [])
  have hvalue := Setting.put_eq (Setting.isWhole_of_toText? h)
  simp only [henvironment, Setting.assign?, hvalue, Option.map_some]
  cases setting <;> rfl

theorem mergedSettings?_eq_tree {before after : Variables} (hbefore : before.NoSettings)
    (hafter : after.NoSettings) (setting : TextSetting) (environment : Environment)
    (value : String) :
    mergedSettings? environment [] (before ++ (setting.variableName, value) :: after) =
      some (setting.tree environment (.ofText value)) := by
  obtain ⟨key, hkey, hpath⟩ := setting.exists_key
  have htext := Setting.toText?_ofText value
  rw [mergedSettings?, Variables.settings_among hbefore hafter hkey]
  simp only [Setting.assignAll?, Option.bind_some, hpath, assign?_eq_tree setting environment htext]

/-- A tree without settings of the cache and the reaper is read section by section. -/
theorem read_eq_some {members : List (String × Setting)} {chosen : Setting}
    {environment : Environment} {jwt : JwtConfig} {database : DatabaseConfig}
    {logging : LoggingConfig}
    (hchosen : members.lookup "environment" = some chosen)
    (henvironment : chosen.toChoice?.bind Environment.ofName? = some environment)
    (hjwt : SettingSource.getD (fun name => members.lookup name) "jwt" {}
      (JwtConfig.read .settings) = some jwt)
    (hcache : members.lookup "cache" = none)
    (hdatabase : SettingSource.getD (fun name => members.lookup name) "database" {}
      (DatabaseConfig.read .settings) = some database)
    (hreaper : members.lookup "reaper" = none)
    (hlogging : SettingSource.getD (fun name => members.lookup name) "logging" {}
      (LoggingConfig.read .settings) = some logging) :
    AppConfig.read .settings (.table members) = some { environment, jwt, database, logging } := by
  have hread : SettingSource.getD (fun name => members.lookup name) "environment" .development
      (fun value => value.toChoice?.bind Environment.ofName?) = some environment := by
    rw [SettingSource.getD, hchosen]
    exact henvironment
  have hnoCache : SettingSource.getD (fun name => members.lookup name) "cache" {}
      (CacheConfig.read .settings) = some {} := by
    rw [SettingSource.getD, hcache]
  have hnoReaper : SettingSource.getD (fun name => members.lookup name) "reaper" {}
      (ReaperConfig.read .settings) = some {} := by
    rw [SettingSource.getD, hreaper]
  -- the sections are read one after the other, and the two that are missing are the default ones
  refine Option.bind_eq_some_iff.mpr ⟨environment, hread, ?_⟩
  refine Option.bind_eq_some_iff.mpr ⟨jwt, hjwt, ?_⟩
  refine Option.bind_eq_some_iff.mpr ⟨{}, hnoCache, ?_⟩
  refine Option.bind_eq_some_iff.mpr ⟨database, hdatabase, ?_⟩
  refine Option.bind_eq_some_iff.mpr ⟨{}, hnoReaper, ?_⟩
  exact Option.bind_eq_some_iff.mpr ⟨logging, hlogging, rfl⟩

/-- All other settings have their defaults. -/
theorem read_tree (setting : TextSetting) (environment : Environment) {value : Setting}
    {text : String} (h : value.toText? = some text) :
    AppConfig.read .settings (setting.tree environment value) =
      some (setting.set { environment } text) := by
  have hname : (Setting.text environment.name).toChoice?.bind Environment.ofName? =
      some environment := Environment.ofName?_name environment
  -- the section of the setting is read from the tree, the other sections are missing
  cases setting with
  | secret =>
      have hjwt : JwtConfig.read .settings (.table [("secret", value)]) = some { secret := text } :=
        Option.bind_eq_some_iff.mpr ⟨text, h, rfl⟩
      exact read_eq_some rfl hname hjwt rfl rfl rfl rfl
  | issuer =>
      have hjwt : JwtConfig.read .settings (.table [("issuer", value)]) = some { issuer := text } :=
        Option.bind_eq_some_iff.mpr ⟨text, h, rfl⟩
      exact read_eq_some rfl hname hjwt rfl rfl rfl rfl
  | logLevel =>
      have hlogging : LoggingConfig.read .settings (.table [("level", value)]) =
          some { level := text } :=
        Option.bind_eq_some_iff.mpr ⟨text, h, rfl⟩
      exact read_eq_some rfl hname rfl rfl rfl rfl hlogging
  | databaseUrl =>
      have hdatabase : DatabaseConfig.read .settings (.table [("url", value)]) =
          some { url := text } :=
        Option.bind_eq_some_iff.mpr ⟨text, h, rfl⟩
      exact read_eq_some rfl hname rfl rfl hdatabase rfl rfl

theorem validate_set (setting : TextSetting) (environment : Environment) {text : String}
    (h : text ≠ "") : (setting.set { environment } text).validate = .ok () := by
  have hdefault : ({} : JwtConfig).validate = .ok () := rfl
  refine AppConfig.validate_eq_ok_iff.mpr ⟨?_, ?_, ?_⟩
  · -- only the secret and the issuer are under a rule, which is that they are not empty
    cases setting with
    | secret | issuer =>
        have hsecret : defaultSecret ≠ "" := by decide
        have haccess : (900 : Int) ≤ greatestLifetime := by decide
        have hrefresh : (2592000 : Int) ≤ greatestLifetime := by decide
        refine SettingRule.checkAll_eq_ok.mpr ?_
        simp [set, JwtConfig.rules, JwtConfig.lifetimes, SettingRule.require, h, hsecret, haccess,
          hrefresh]
    | logLevel | databaseUrl => exact hdefault
  · cases setting <;> rfl
  · cases setting <;> rfl

/-- A variable that sets a text gives the setting what the variable is respelled as. -/
theorem load_eq {before after : Variables} (hbefore : before.NoSettings)
    (hafter : after.NoSettings) (setting : TextSetting) {value : String} (hvalue : value ≠ "") :
    AppConfig.load (before ++ (setting.variableName, value) :: after) [] =
      .ok (setting.set
        { environment :=
            Environment.detect (before ++ (setting.variableName, value) :: after) }
        (Setting.respelled value)) := by
  have hfile (name : String) : fileSettings [] name = .ok [] := rfl
  have hread := setting.read_tree
    (Environment.detect (before ++ (setting.variableName, value) :: after))
    (Setting.toText?_ofText value)
  have hvalid := setting.validate_set
    (Environment.detect (before ++ (setting.variableName, value) :: after))
    (Setting.respelled_ne_empty hvalue)
  simp only [AppConfig.load, hfile, mergedSettings?_eq_tree hbefore hafter, hread, hvalid, bind,
    Except.bind, pure, Except.pure]

end TextSetting

/-! ## The same key in plain variables -/

/-- The key that is taken from plain variables is the value of its variable. -/
theorem JwtConfig.secret_of_ofVariables {vars : Variables} {config : JwtConfig}
    (h : JwtConfig.ofVariables vars = .ok config) :
    config.secret = (vars.value? "JWT_SECRET").getD defaultSecret := by
  obtain ⟨accessLifetime, -, h⟩ := bind_eq_ok.mp h
  obtain ⟨refreshLifetime, -, h⟩ := bind_eq_ok.mp h
  obtain ⟨deletionGrace, -, h⟩ := bind_eq_ok.mp h
  obtain ⟨_, -, h⟩ := bind_eq_ok.mp h
  cases h
  rfl

theorem AppConfig.jwt_of_ofVariables {vars : Variables} {config : AppConfig}
    (h : AppConfig.ofVariables vars = .ok config) :
    JwtConfig.ofVariables vars = .ok config.jwt := by
  obtain ⟨jwt, hjwt, h⟩ := bind_eq_ok.mp h
  obtain ⟨cache, -, h⟩ := bind_eq_ok.mp h
  obtain ⟨reaper, -, h⟩ := bind_eq_ok.mp h
  cases h
  exact hjwt

theorem JwtConfig.secret_of_service? {config : JwtConfig} {service : ServiceConfig}
    (h : config.service? = some service) : service.secret = ⟨Utf8.encode config.secret.toList⟩ := by
  obtain ⟨lifetime, -, rfl⟩ := Option.map_eq_some_iff.mp h
  rfl

theorem encode_toList_inj {text other : String} :
    Utf8.encode text.toList = Utf8.encode other.toList ↔ text = other := by
  constructor
  · intro h
    exact String.toList_injective (Utf8.encode_injective h)
  · intro h
    rw [h]

theorem AppConfig.exists_ofVariables {value : String} (h : value ≠ "") :
    ∃ other, AppConfig.ofVariables [("JWT_SECRET", value)] = .ok other := by
  have hvalid := TextSetting.secret.validate_set .development h
  have hjwt : ({ secret := value } : JwtConfig).validate = .ok () :=
    (AppConfig.validate_eq_ok_iff.mp hvalid).1
  have hread : JwtConfig.ofVariables [("JWT_SECRET", value)] = .ok { secret := value } := by
    simp only [JwtConfig.ofVariables, Variables.readOr, Variables.value?, List.lookup_cons,
      List.lookup_nil, String.reduceBEq, Option.getD_some, Option.getD_none, bind, Except.bind,
      pure, Except.pure, hjwt]
  simp only [AppConfig.ofVariables, hread, bind, Except.bind, pure, Except.pure,
    CacheConfig.ofVariables, ReaperConfig.ofVariables, Variables.readOr, Variables.value?,
    List.lookup_cons, List.lookup_nil, String.reduceBEq]
  exact ⟨_, rfl⟩

/-! ## Both loaders -/

/-- How the key of a configuration compares with the one that plain variables give for a text. -/
structure AppConfig.ComparesKey (config : AppConfig) (value : String) : Prop where
  plain : ∃ other, AppConfig.ofVariables [("JWT_SECRET", value)] = .ok other
  same_iff : ∀ vars other ours theirs, vars.value? "JWT_SECRET" = some value →
    AppConfig.ofVariables vars = .ok other → config.jwt.service? = some ours →
      other.jwt.service? = some theirs →
        (ours.secret = theirs.secret ↔ Setting.IsOwnSpelling value)
  /-- Services with one key extract the claims of each other's tokens. -/
  extracts : ∀ vars other ours theirs, vars.value? "JWT_SECRET" = some value →
    AppConfig.ofVariables vars = .ok other → config.jwt.service? = some ours →
      other.jwt.service? = some theirs → Setting.IsOwnSpelling value → ∀ claims,
        Jwt.extract (Jwt.sign claims ours.secret) theirs.secret =
            .ok (claims.mapTime Instant.floorSecond) ∧
          Jwt.extract (Jwt.sign claims theirs.secret) ours.secret =
            .ok (claims.mapTime Instant.floorSecond)

/-- What the last layer makes of a text setting, and of the key beside the other loader. -/
structure TextSetting.IsLoaded (setting : TextSetting) (value : String) (vars : Variables)
    (config : AppConfig) : Prop where
  load_eq : AppConfig.load vars [] = .ok config
  get_eq : setting.get config = Setting.respelled value
  verbatim_iff : setting.get config = value ↔ Setting.IsOwnSpelling value
  comparesKey : setting = .secret → config.ComparesKey value

theorem AppConfig.comparesKey_of_secret {config : AppConfig} {value : String} (hvalue : value ≠ "")
    (hsecret : config.jwt.secret = Setting.respelled value) : config.ComparesKey value := by
  have hsame : ∀ vars other ours theirs, vars.value? "JWT_SECRET" = some value →
      AppConfig.ofVariables vars = .ok other → config.jwt.service? = some ours →
        other.jwt.service? = some theirs →
          (ours.secret = theirs.secret ↔ Setting.IsOwnSpelling value) := by
    intro vars other ours theirs hvars hother hours htheirs
    have hplain := JwtConfig.secret_of_ofVariables (AppConfig.jwt_of_ofVariables hother)
    rw [hvars, Option.getD_some] at hplain
    rw [JwtConfig.secret_of_service? hours, JwtConfig.secret_of_service? htheirs, hsecret, hplain,
      TokenSecret.mk.injEq, encode_toList_inj, Setting.respelled_eq_self_iff]
  refine ⟨AppConfig.exists_ofVariables hvalue, hsame, ?_⟩
  intro vars other ours theirs hvars hother hours htheirs hown claims
  have hkey := (hsame vars other ours theirs hvars hother hours htheirs).mpr hown
  rw [hkey]
  exact ⟨Jwt.extract_sign_eq claims _, Jwt.extract_sign_eq claims _⟩

/-- Loading keeps a text setting exactly if the text is its own spelling. -/
theorem TextSetting.load_keeps_own_spellings (setting : TextSetting) (before after : Variables)
    (value : String) (hvalue : value ≠ "") (hbefore : before.NoSettings)
    (hafter : after.NoSettings) :
    ∃ config, setting.IsLoaded value (before ++ (setting.variableName, value) :: after) config := by
  refine ⟨_, {
    load_eq := load_eq hbefore hafter setting hvalue
    get_eq := get_set _ _ setting
    verbatim_iff := ?_
    comparesKey := ?_ }⟩
  · rw [get_set]
    exact Setting.respelled_eq_self_iff
  · rintro rfl
    exact AppConfig.comparesKey_of_secret hvalue rfl

/-- A word is its own spelling, among variables that are no settings. -/
theorem TextSetting.load_keeps_word :
    "tangerine" ≠ "" ∧ Variables.NoSettings [("PS_ENV", "prod")] ∧
      Variables.NoSettings [("HOME", "/root")] ∧
        ∃ config, TextSetting.secret.IsLoaded "tangerine"
          ([("PS_ENV", "prod")] ++ ("PS__JWT__SECRET", "tangerine") :: [("HOME", "/root")])
          config := by
  have hvalue : "tangerine" ≠ "" := by decide
  have hbefore : Variables.NoSettings [("PS_ENV", "prod")] := by
    unfold Variables.NoSettings
    decide
  have hafter : Variables.NoSettings [("HOME", "/root")] := by
    unfold Variables.NoSettings
    decide
  exact ⟨hvalue, hbefore, hafter,
    TextSetting.secret.load_keeps_own_spellings _ _ _ hvalue hbefore hafter⟩

/-- The zeros at the start of a number do not reach the key through the last layer, and do through
plain variables. -/
theorem TextSetting.leading_zeros_are_lost :
    ∃ config other, AppConfig.load [("PS__JWT__SECRET", "007")] [] = .ok config ∧
      AppConfig.ofVariables [("JWT_SECRET", "007")] = .ok other ∧
        config.jwt.secret = "7" ∧ other.jwt.secret = "007" ∧
          config.jwt.service?.map (·.secret) ≠ other.jwt.service?.map (·.secret) := by
  have hvalue : "007" ≠ "" := by decide
  have hnone : Variables.NoSettings [] := fun _ h => nomatch h
  have hload := load_eq hnone hnone .secret hvalue
  obtain ⟨other, hother⟩ := AppConfig.exists_ofVariables hvalue
  have hplain := JwtConfig.secret_of_ofVariables (AppConfig.jwt_of_ofVariables hother)
  have hrespelled : Setting.respelled "007" = "7" := by
    have hread : Setting.ofText "007" = .integer 7 := rfl
    have hseven : intDigits 7 = ['7'] := by
      rw [intDigits, if_neg (by decide), natDigits, if_pos (by decide)]
      rfl
    rw [Setting.respelled, hread, Setting.toText?, hseven]
    rfl
  have hsecret : (TextSetting.secret.set
      { environment := Environment.detect [("PS__JWT__SECRET", "007")] }
      (Setting.respelled "007")).jwt.secret = "7" := hrespelled
  refine ⟨_, other, hload, hother, hsecret, hplain, fun hsame => ?_⟩
  -- the default lifetime is within the limit, so that both are services
  obtain ⟨theirs, htheirs, hkey⟩ := Option.map_eq_some_iff.mp (hsame.symm.trans rfl)
  rw [JwtConfig.secret_of_service? htheirs, hplain, TokenSecret.mk.injEq, encode_toList_inj] at hkey
  exact absurd (hkey.trans hsecret) (by decide)

end SessionTokens
