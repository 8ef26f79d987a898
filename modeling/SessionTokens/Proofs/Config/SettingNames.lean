import SessionTokens.Config.SettingName

/-! # Reading a configuration setting by setting

A configuration is read exactly if it is a table of tables, no database section lacks its URL, and
every setting can be read on its own. The sections do not show in this: what a setting is read as
depends on the value at its place and on nothing else.
-/

namespace SessionTokens

/-- A setting is told by the place where it stands and its name there. -/
theorem SettingName.find?_place (setting : SettingName) :
    SettingName.all.find? (fun other => other.section? == setting.section? &&
      other.name == setting.name) = some setting := by
  cases setting <;> rfl

theorem SettingName.eq_of_place {setting other : SettingName}
    (hsection : setting.section? = other.section?) (hname : setting.name = other.name) :
    setting = other := by
  have h := setting.find?_place
  rw [hsection, hname, other.find?_place] at h
  exact (Option.some.inj h).symm

attribute [ext] JwtConfig CacheConfig DatabaseConfig ReaperConfig LoggingConfig

/-- Two configurations have the same section. -/
def AppConfig.AgreesIn (config other : AppConfig) : ConfigSection → Prop
  | .jwt => config.jwt = other.jwt
  | .cache => config.cache = other.cache
  | .database => config.database = other.database
  | .reaper => config.reaper = other.reaper
  | .logging => config.logging = other.logging

theorem AppConfig.agreesIn_iff {config other : AppConfig} {place : ConfigSection} :
    config.AgreesIn other place ↔
      ∀ setting : SettingName, setting.section? = some place →
        setting.get config = setting.get other := by
  constructor
  · intro h setting hplace
    cases place <;> simp only [AgreesIn] at h <;> cases setting <;> cases hplace <;>
      simp only [SettingName.get, h]
  · intro h
    cases place with
    | jwt =>
        exact JwtConfig.ext (h .issuer rfl) (h .secret rfl) (h .accessLifetime rfl)
          (h .refreshLifetime rfl) (h .deletionGrace rfl)
    | cache => exact CacheConfig.ext (h .cacheEnabled rfl) (h .cacheBudget rfl)
    | database =>
        exact DatabaseConfig.ext (h .databaseUrl rfl) (h .maxConnections rfl)
          (h .connectTimeout rfl) (h .idleTimeout rfl) (h .maxLifetime rfl)
          (h .slowQueryThreshold rfl)
    | reaper => exact ReaperConfig.ext (h .reaperEnabled rfl) (h .reaperInterval rfl)
    | logging =>
        exact LoggingConfig.ext (h .logLevel rfl) (h .logFormat rfl) (h .logColored rfl)
          (h .logSourceLocation rfl)

namespace SettingSource

variable {ν : Type} (source : SettingSource ν)

/-! ## What stands at a place -/

/-- What a source has for a section. -/
def section? (value : ν) (place : ConfigSection) : Option ν :=
  (source.table? AppConfig.memberNames value).bind fun members => members place.name

/-- What a source has for a setting. -/
def value? (value : ν) (setting : SettingName) : Option ν :=
  match setting.section? with
  | none => (source.table? AppConfig.memberNames value).bind fun members => members setting.name
  | some place =>
      ((source.section? value place).bind (source.table? place.settingNames)).bind
        fun members => members setting.name

/-- What a setting is read as. One that is not there has its default. -/
def readFound (setting : SettingName) : Option ν → Option setting.kind.Value
  | none => some (setting.get {})
  | some found => source.readKind setting.kind found

/-- A table, in which every section is a table. -/
structure IsTables (value : ν) : Prop where
  whole : (source.table? AppConfig.memberNames value).isSome
  sections : ∀ place inner, source.section? value place = some inner →
    (source.table? place.settingNames inner).isSome

/-- There is a database section, and it has no URL. -/
def LacksUrl (value : ν) : Prop :=
  (source.section? value .database).isSome ∧ source.value? value .databaseUrl = none

/-! ## Sections -/

/-- A section is read as the one of a configuration. -/
def ReadsSection (inner : ν) (config : AppConfig) : ConfigSection → Prop
  | .jwt => JwtConfig.read source inner = some config.jwt
  | .cache => CacheConfig.read source inner = some config.cache
  | .database => DatabaseConfig.read source inner = some config.database
  | .reaper => ReaperConfig.read source inner = some config.reaper
  | .logging => LoggingConfig.read source inner = some config.logging

theorem readsSection_iff {inner : ν} {config : AppConfig} {place : ConfigSection} :
    source.ReadsSection inner config place ↔
      ∃ members, source.table? place.settingNames inner = some members ∧
        (place = .database → (members SettingName.databaseUrl.name).isSome) ∧
        ∀ setting : SettingName, setting.section? = some place →
          source.readFound setting (members setting.name) = some (setting.get config) := by
  cases place with
  | jwt =>
      simp only [ReadsSection, JwtConfig.read, Option.bind_eq_bind, Option.bind_eq_some_iff,
        Option.some.injEq]
      constructor
      · rintro ⟨members, hmembers, _, _, _, _, _, _, _, _, _, _, hsection⟩
        refine ⟨members, hmembers, by rintro ⟨⟩, fun setting hplace => ?_⟩
        cases setting <;> cases hplace <;> simp only [SettingName.get, ← hsection] <;> assumption
      · rintro ⟨members, hmembers, -, h⟩
        exact ⟨members, hmembers, _, h .issuer rfl, _, h .secret rfl, _, h .accessLifetime rfl,
          _, h .refreshLifetime rfl, _, h .deletionGrace rfl, rfl⟩
  | cache =>
      simp only [ReadsSection, CacheConfig.read, Option.bind_eq_bind, Option.bind_eq_some_iff,
        Option.some.injEq]
      constructor
      · rintro ⟨members, hmembers, _, _, _, _, hsection⟩
        refine ⟨members, hmembers, by rintro ⟨⟩, fun setting hplace => ?_⟩
        cases setting <;> cases hplace <;> simp only [SettingName.get, ← hsection] <;> assumption
      · rintro ⟨members, hmembers, -, h⟩
        exact ⟨members, hmembers, _, h .cacheEnabled rfl, _, h .cacheBudget rfl, rfl⟩
  | database =>
      simp only [ReadsSection, DatabaseConfig.read, Option.bind_eq_bind, Option.bind_eq_some_iff,
        Option.some.injEq]
      constructor
      · rintro ⟨members, hmembers, _, ⟨found, hfound, hurl⟩, _, _, _, _, _, _, _, _, _, _, hsection⟩
        refine ⟨members, hmembers, fun _ => ?_, fun setting hplace => ?_⟩
        · exact Option.isSome_iff_exists.mpr ⟨found, hfound⟩
        · have hread : source.readFound .databaseUrl (members SettingName.databaseUrl.name) =
              some config.database.url := by
            rw [← hsection]
            exact (congrArg (source.readFound .databaseUrl) hfound).trans hurl
          cases setting <;> cases hplace <;> try exact hread
          all_goals
            simp only [SettingName.get, ← hsection]
            assumption
      · rintro ⟨members, hmembers, hurl, h⟩
        obtain ⟨found, hfound⟩ := Option.isSome_iff_exists.mp (hurl trivial)
        have hread := h .databaseUrl rfl
        rw [hfound] at hread
        exact ⟨members, hmembers, _, ⟨found, hfound, hread⟩, _, h .maxConnections rfl,
          _, h .connectTimeout rfl, _, h .idleTimeout rfl, _, h .maxLifetime rfl,
          _, h .slowQueryThreshold rfl, rfl⟩
  | reaper =>
      simp only [ReadsSection, ReaperConfig.read, Option.bind_eq_bind, Option.bind_eq_some_iff,
        Option.some.injEq]
      constructor
      · rintro ⟨members, hmembers, _, _, _, _, hsection⟩
        refine ⟨members, hmembers, by rintro ⟨⟩, fun setting hplace => ?_⟩
        cases setting <;> cases hplace <;> simp only [SettingName.get, ← hsection] <;> assumption
      · rintro ⟨members, hmembers, -, h⟩
        exact ⟨members, hmembers, _, h .reaperEnabled rfl, _, h .reaperInterval rfl, rfl⟩
  | logging =>
      simp only [ReadsSection, LoggingConfig.read, Option.bind_eq_bind, Option.bind_eq_some_iff,
        Option.some.injEq]
      constructor
      · rintro ⟨members, hmembers, _, _, _, _, _, _, _, _, hsection⟩
        refine ⟨members, hmembers, by rintro ⟨⟩, fun setting hplace => ?_⟩
        cases setting <;> cases hplace <;> simp only [SettingName.get, ← hsection] <;> assumption
      · rintro ⟨members, hmembers, -, h⟩
        exact ⟨members, hmembers, _, h .logLevel rfl, _, h .logFormat rfl, _, h .logColored rfl,
          _, h .logSourceLocation rfl, rfl⟩

/-- What is made of a section, or of its absence, is the section of a configuration. -/
def ReadsMember (members : String → Option ν) (config : AppConfig) : ConfigSection → Prop
  | .jwt => getD members "jwt" ({} : AppConfig).jwt (JwtConfig.read source) = some config.jwt
  | .cache =>
      getD members "cache" ({} : AppConfig).cache (CacheConfig.read source) = some config.cache
  | .database =>
      getD members "database" ({} : AppConfig).database (DatabaseConfig.read source) =
        some config.database
  | .reaper =>
      getD members "reaper" ({} : AppConfig).reaper (ReaperConfig.read source) = some config.reaper
  | .logging =>
      getD members "logging" ({} : AppConfig).logging (LoggingConfig.read source) =
        some config.logging

theorem readsMember_of_some {members : String → Option ν} {config : AppConfig}
    {place : ConfigSection} {inner : ν} (h : members place.name = some inner) :
    source.ReadsMember members config place ↔ source.ReadsSection inner config place := by
  cases place <;> simp only [ConfigSection.name] at h <;> simp only [ReadsMember, getD, h] <;> rfl

theorem readsMember_of_none {members : String → Option ν} {config : AppConfig}
    {place : ConfigSection} (h : members place.name = none) :
    source.ReadsMember members config place ↔
      ∀ setting : SettingName, setting.section? = some place →
        setting.get {} = setting.get config := by
  rw [← AppConfig.agreesIn_iff]
  cases place <;> simp only [ConfigSection.name] at h <;>
    simp only [ReadsMember, getD, h, Option.some.injEq] <;> rfl

/-- What is made of a section depends on its settings one by one. -/
theorem readsMember_iff {value : ν} {members : String → Option ν} {config : AppConfig}
    {place : ConfigSection} (hmembers : source.table? AppConfig.memberNames value = some members) :
    source.ReadsMember members config place ↔
      (∀ inner, source.section? value place = some inner →
        (source.table? place.settingNames inner).isSome) ∧
      (place = .database → ¬ source.LacksUrl value) ∧
      ∀ setting : SettingName, setting.section? = some place →
        source.readFound setting (source.value? value setting) = some (setting.get config) := by
  have hsection : source.section? value place = members place.name := by
    rw [section?, hmembers, Option.bind_some]
  have hvalue (setting : SettingName) (hplace : setting.section? = some place) :
      source.value? value setting =
        ((members place.name).bind (source.table? place.settingNames)).bind
          fun inner => inner setting.name := by
    simp only [value?, hplace, hsection]
  cases hfound : members place.name with
  | none =>
      rw [hfound] at hsection hvalue
      rw [source.readsMember_of_none hfound]
      simp only [hsection, reduceCtorEq, false_implies, implies_true, true_and]
      refine ⟨fun h => ⟨?_, fun setting hplace => ?_⟩, fun h setting hplace => ?_⟩
      · rintro rfl ⟨hsome, -⟩
        rw [hsection] at hsome
        cases hsome
      · rw [hvalue setting hplace]
        exact congrArg some (h setting hplace)
      · have hread := h.2 setting hplace
        rw [hvalue setting hplace] at hread
        exact Option.some.inj hread
  | some inner =>
      rw [hfound] at hsection hvalue
      rw [source.readsMember_of_some hfound, source.readsSection_iff]
      simp only [hsection, Option.some.injEq, forall_eq']
      cases hinner : source.table? place.settingNames inner with
      | none => simp
      | some found =>
          simp only [Option.bind_some, hinner] at hvalue
          have hurl : (place = .database → (found SettingName.databaseUrl.name).isSome) ↔
              (place = .database → ¬ source.LacksUrl value) := by
            refine forall_congr' fun hplace => ?_
            subst hplace
            rw [LacksUrl, hsection, hvalue .databaseUrl rfl, Option.isSome_iff_ne_none]
            simp
          simp only [Option.some.injEq, exists_eq_left', Option.isSome_some, true_and, hurl]
          refine and_congr_right fun _ => forall_congr' fun setting => forall_congr' fun hplace => ?_
          rw [hvalue setting hplace]

/-! ## The whole -/

/-- A configuration is read from a source exactly if the source has a table of tables, no database
section lacks its URL, and every setting is read as its value in the configuration. -/
theorem read_eq_some_iff {value : ν} {config : AppConfig} :
    AppConfig.read source value = some config ↔
      source.IsTables value ∧ ¬ source.LacksUrl value ∧
        ∀ setting : SettingName,
          source.readFound setting (source.value? value setting) = some (setting.get config) := by
  have hread : AppConfig.read source value = some config ↔
      ∃ members, source.table? AppConfig.memberNames value = some members ∧
        source.readFound .environment (members "environment") = some config.environment ∧
        ∀ place, source.ReadsMember members config place := by
    simp only [AppConfig.read, Option.bind_eq_bind, Option.bind_eq_some_iff, Option.some.injEq]
    constructor
    · rintro ⟨members, hmembers, _, _, _, _, _, _, _, _, _, _, _, _, rfl⟩
      refine ⟨members, hmembers, by assumption, fun place => ?_⟩
      cases place <;> assumption
    · rintro ⟨members, hmembers, henvironment, h⟩
      exact ⟨members, hmembers, _, henvironment, _, h .jwt, _, h .cache, _, h .database,
        _, h .reaper, _, h .logging, rfl⟩
  rw [hread]
  constructor
  · rintro ⟨members, hmembers, henvironment, h⟩
    have hplace (place : ConfigSection) := (source.readsMember_iff hmembers).mp (h place)
    refine ⟨⟨by rw [hmembers]; rfl, fun place => (hplace place).1⟩,
      (hplace .database).2.1 rfl, fun setting => ?_⟩
    cases hsection : setting.section? with
    | some place => exact (hplace place).2.2 setting hsection
    | none =>
        cases setting <;> cases hsection
        rw [value?, hmembers]
        exact henvironment
  · rintro ⟨⟨hwhole, hsections⟩, hurl, h⟩
    obtain ⟨members, hmembers⟩ := Option.isSome_iff_exists.mp hwhole
    refine ⟨members, hmembers, ?_, fun place => (source.readsMember_iff hmembers).mpr
      ⟨hsections place, fun _ => hurl, fun setting _ => h setting⟩⟩
    have henvironment := h .environment
    rw [value?, hmembers] at henvironment
    exact henvironment

end SettingSource

end SessionTokens
