import SessionTokens.Proofs.Config.Precedence
import SessionTokens.Proofs.Token.Wire

/-! # Completing what is given

Whatever settings are given, and wherever, all others have a default. The defaults are those of
the sections, which are not the built-in configuration: its log is another one. And there is one
setting whose default counts only where the whole section is missing, the URL of the database.
-/

namespace SessionTokens

open Number Text

/-! ## Values that are written and read -/

namespace SettingKind

/-- What a value arrives as through a variable: a text as whatever it is respelled as, and a
natural number that needs all 64 bits as the nearest floating-point number. -/
def arrived : (kind : SettingKind) → kind.Value → kind.Value
  | .text, value => Setting.respelled value
  | .natural, value =>
      if IntegerBounds.signed64.contains (value : Nat) then value
      else ((Binary64.ofDecimal false value 0).toInteger .unsigned64).toNat
  | .flag, value | .signed, value | .natural32, value | .environment, value
  | .format, value => value

theorem readInt_ofInt {bounds : IntegerBounds} {value : Int}
    (h : bounds.contains value = true) : Json.readInt bounds (.ofInt value) = some value := by
  simp [Json.readInt, Json.ofInt, Wire.toInt?_ofInt, h]

theorem readKind_toJson {kind : SettingKind} {value : kind.Value} (h : kind.Fits value) :
    SettingSource.json.readKind kind (kind.toJson value) = some value := by
  cases kind with
  | text | flag => rfl
  | signed => exact readInt_ofInt h
  | natural | natural32 => exact congrArg (Option.map Int.toNat) (readInt_ofInt h)
  | environment => exact Environment.ofName?_name value
  | format => exact LogFormat.ofName?_name value

theorem toInteger?_integer {bounds : IntegerBounds} {value : Int}
    (h : bounds.contains value = true) :
    (Setting.integer value).toInteger? bounds = some value := by
  rw [Setting.toInteger?, if_pos h]

theorem unsigned64_of_unsigned32 {value : Int}
    (h : IntegerBounds.unsigned32.contains value = true) :
    IntegerBounds.unsigned64.contains value = true ∧
      IntegerBounds.signed64.contains value = true ∧ value < 4294967296 := by
  simp only [IntegerBounds.contains_iff, IntegerBounds.unsigned32, IntegerBounds.unsigned64,
    IntegerBounds.signed64] at h ⊢
  omega

theorem readKind_toSetting {kind : SettingKind} {value : kind.Value} (h : kind.Fits value) :
    SettingSource.settings.readKind kind (kind.toSetting value) = some value := by
  cases kind with
  | text | flag => rfl
  | signed => exact toInteger?_integer h
  | natural => exact congrArg (Option.map Int.toNat) (toInteger?_integer h)
  | natural32 =>
      obtain ⟨hfits, -, hlt⟩ := unsigned64_of_unsigned32 h
      refine (congrArg (Option.map _) (toInteger?_integer hfits)).trans ?_
      rw [Option.map_some, Option.some.injEq, Int.toNat_natCast]
      exact Nat.mod_eq_of_lt (by omega)
  | environment => exact Environment.ofName?_name value
  | format => exact LogFormat.ofName?_name value

/-- A value that is no number, or a number of 64 signed bits, arrives as the file would have it. -/
theorem readKind_toVariable {kind : SettingKind} {value : kind.Value} (h : kind.Fits value) :
    SettingSource.settings.readKind kind (.ofText (kind.toVariable value)) =
      some (kind.arrived value) := by
  cases kind with
  | text => exact Setting.toText?_ofText value
  | flag =>
      have htext : Setting.ofText (flag.toVariable value) = .flag value := by
        cases value <;> rfl
      rw [htext]
      rfl
  | signed =>
      have htext : Setting.ofText (signed.toVariable value) = .integer value :=
        Setting.ofText_intDigits h
      rw [htext]
      exact toInteger?_integer h
  | natural =>
      by_cases hsigned : IntegerBounds.signed64.contains (value : Nat) = true
      · have htext : Setting.ofText (natural.toVariable value) = .integer (value : Nat) := by
          have htext := Setting.ofText_intDigits hsigned
          rwa [intDigits_natCast] at htext
        simp only [htext, arrived, hsigned, if_true]
        exact congrArg (Option.map Int.toNat) (toInteger?_integer h)
      · have hlarge : IntegerBounds.signed64.greatest < (value : Nat) := by
          simp only [IntegerBounds.contains_iff, IntegerBounds.signed64] at hsigned ⊢
          omega
        have htext : Setting.ofText (natural.toVariable value) =
            .real (.ofDecimal false value 0) := Setting.ofText_natDigits hlarge
        simp only [htext, arrived, hsigned]
        rfl
  | natural32 =>
      obtain ⟨-, hsigned, -⟩ := unsigned64_of_unsigned32 h
      have htext : Setting.ofText (natural32.toVariable value) = natural32.toSetting value := by
        have htext := Setting.ofText_intDigits hsigned
        rwa [intDigits_natCast] at htext
      rw [htext]
      exact readKind_toSetting h
  | environment => cases value <;> rfl
  | format => cases value <;> rfl

end SettingKind

/-! ## Given settings -/

namespace GivenSettings

variable {given : GivenSettings}

/-- All values that are given fit their settings. -/
def Fit (given : GivenSettings) : Prop :=
  ∀ setting value, given setting = some value → setting.kind.Fits value

/-- What variables give over what a settings file gives. -/
def above (ofVariables ofFile : GivenSettings) : GivenSettings := fun setting =>
  ((ofVariables setting).map setting.kind.arrived).or (ofFile setting)

/-- The built-in configuration completes the settings in the same way exactly if these include the
two settings of the log in which it differs. -/
theorem complete_builtIn_iff (given : GivenSettings) (environment : Environment) :
    given.complete { environment } = given.complete { AppConfig.builtIn with environment } ↔
      (given .logLevel).isSome ∧ (given .logSourceLocation).isSome := by
  constructor
  · intro h
    have hlevel := congrArg SettingName.logLevel.get h
    have hlocation := congrArg SettingName.logSourceLocation.get h
    rw [complete, complete, SettingName.get_ofSettings, SettingName.get_ofSettings]
      at hlevel hlocation
    constructor
    · cases hgiven : given .logLevel with
      | some level => rfl
      | none =>
          rw [hgiven] at hlevel
          exact absurd hlevel (show "info" ≠ "debug" by decide)
    · cases hgiven : given .logSourceLocation with
      | some location => rfl
      | none =>
          rw [hgiven] at hlocation
          exact absurd hlocation Bool.false_ne_true
  · rintro ⟨hlevel, hlocation⟩
    obtain ⟨level, hlevel⟩ := Option.isSome_iff_exists.mp hlevel
    obtain ⟨location, hlocation⟩ := Option.isSome_iff_exists.mp hlocation
    refine congrArg AppConfig.ofSettings (funext fun setting => ?_)
    cases setting <;> first | rfl | rw [hlevel]; rfl | rw [hlocation]; rfl

end GivenSettings

/-! ## One source -/

namespace SettingSource

variable {ν : Type} {source : SettingSource ν} {value : ν}

/-- A source gives settings, each written in one way, and nothing else for any setting. -/
structure Gives (source : SettingSource ν) (write : (kind : SettingKind) → kind.Value → ν)
    (value : ν) (given : GivenSettings) : Prop where
  fit : given.Fit
  tables : source.IsTables value
  value?_eq : ∀ setting, source.value? value setting = (given setting).map (write setting.kind)

theorem read_eq_none_of_lacksUrl (h : source.LacksUrl value) : AppConfig.read source value = none :=
  Option.eq_none_iff_forall_ne_some.mpr fun _ hread => (source.read_eq_some_iff.mp hread).2.1 h

/-- Settings are completed with the defaults of the sections. -/
theorem Gives.read_eq {write : (kind : SettingKind) → kind.Value → ν} {given : GivenSettings}
    (hwrite : ∀ (kind : SettingKind) value, kind.Fits value →
      source.readKind kind (write kind value) = some value)
    (h : source.Gives write value given) (hurl : ¬ source.LacksUrl value) :
    AppConfig.read source value = some (given.complete {}) := by
  refine source.read_eq_some_iff.mpr ⟨h.tables, hurl, fun setting => ?_⟩
  rw [h.value?_eq, GivenSettings.complete, SettingName.get_ofSettings]
  cases hgiven : given setting with
  | none => rfl
  | some value => exact hwrite setting.kind value (h.fit setting value hgiven)

end SettingSource

/-! ## Layers -/

namespace Setting

variable {tree result : Setting} {members : List (String × Setting)} {vars : Variables}

/-- Every section is a table of names. -/
def HasTables (tree : Setting) : Prop :=
  ∀ place : ConfigSection, ∀ inner, tree.get? place.name = some inner →
    ∃ members, inner = table members

theorem value?_eq_at? (h : (table members).HasTables) (setting : SettingName) :
    SettingSource.settings.value? (table members) setting = (table members).at? setting := by
  unfold SettingSource.value? at?
  cases hplace : setting.section? with
  | none => rfl
  | some place =>
      simp only [section?_table]
      cases hinner : (table members).get? place.name with
      | none => rfl
      | some inner =>
          obtain ⟨inner, rfl⟩ := h place inner hinner
          rfl

theorem isTables_of_hasTables (h : (table members).HasTables) :
    SettingSource.settings.IsTables (table members) := by
  refine ⟨rfl, fun place inner hinner => ?_⟩
  obtain ⟨inner, rfl⟩ := h place inner hinner
  rfl

theorem IsMerged.hasTables {environment : Environment} (h : IsMerged environment tree vars result)
    (htree : tree.HasTables) : result.HasTables := by
  intro place inner hinner
  by_cases htouch : vars.Touch place
  · obtain ⟨members, hmembers⟩ := h.touched place htouch
    rw [hmembers] at hinner
    exact ⟨members, (Option.some.inj hinner).symm⟩
  · rw [h.untouched place htouch] at hinner
    exact htree place inner hinner

/-- The layers have a database section, and none of them gives its URL. -/
def LacksDatabaseUrl (tree : Setting) (vars : Variables) : Prop :=
  (vars.Touch .database ∨ (tree.get? ConfigSection.database.name).isSome) ∧
    vars.textOf? .databaseUrl = none ∧ tree.at? .databaseUrl = none

theorem IsMerged.lacksUrl_iff {environment : Environment}
    (h : IsMerged environment tree vars (table members)) (htree : tree.HasTables) :
    SettingSource.settings.LacksUrl (table members) ↔ tree.LacksDatabaseUrl vars := by
  have hsection : ((table members).get? ConfigSection.database.name).isSome ↔
      vars.Touch .database ∨ (tree.get? ConfigSection.database.name).isSome := by
    by_cases htouch : vars.Touch .database
    · obtain ⟨inner, hinner⟩ := h.touched .database htouch
      simp [htouch, hinner]
    · simp [htouch, h.untouched .database htouch]
  rw [SettingSource.LacksUrl, section?_table, hsection, value?_eq_at? (h.hasTables htree),
    h.at?_eq, LacksDatabaseUrl]
  simp

end Setting

/-- Layers that give settings: a settings file, each as such a file would have it, and variables,
each as its text. -/
structure Variables.GiveOver (vars : Variables) (files : List (String × String))
    (formats : List SettingsFormat) (tree : Setting) (ofVariables ofFile : GivenSettings) :
    Prop where
  named : vars.NameSettings
  textOf?_eq : ∀ setting, vars.textOf? setting =
    (ofVariables setting).map setting.kind.toVariable
  file : ∃ settings, FileHolds formats files (Environment.detect vars).settingsFile settings ∧
    Setting.fileTree? settings = some tree
  tables : tree.HasTables
  at?_eq : ∀ setting, tree.at? setting = (ofFile setting).map setting.kind.toSetting
  variablesFit : ofVariables.Fit
  fileFit : ofFile.Fit

theorem SettingName.get_environment_irrelevant {setting : SettingName} (h : setting ≠ .environment)
    (environment : Environment) : setting.get { environment } = setting.get {} := by
  cases setting <;> first | rfl | exact absurd rfl h

namespace Variables.GiveOver

variable {vars : Variables} {files : List (String × String)} {formats : List SettingsFormat}
  {tree : Setting} {ofVariables ofFile : GivenSettings}

/-- What the layers are read as, setting by setting. -/
theorem readFound_eq (h : vars.GiveOver files formats tree ofVariables ofFile)
    {environment : Environment} {members : List (String × Setting)}
    (hmerged : Setting.IsMerged environment tree vars (.table members)) (setting : SettingName) :
    SettingSource.settings.readFound setting
        (SettingSource.settings.value? (.table members) setting) =
      some (setting.get ((ofVariables.above ofFile).complete { environment })) := by
  rw [Setting.value?_eq_at? (hmerged.hasTables h.tables), hmerged.at?_eq, h.textOf?_eq,
    GivenSettings.complete, SettingName.get_ofSettings, GivenSettings.above]
  -- the variables decide first, then the file, and the environment has one more layer below it
  cases hvariable : ofVariables setting with
  | some value =>
      exact SettingKind.readKind_toVariable (h.variablesFit setting value hvariable)
  | none =>
      simp only [Option.map_none, Option.none_or, h.at?_eq]
      split
      next heq =>
        subst heq
        cases hfile : ofFile .environment with
        | none => exact environment.readKind_text
        | some value =>
            have hne : SettingKind.environment.toSetting value ≠ .table [] := nofun
            rw [Option.map_some, Setting.orText_eq hne]
            exact SettingKind.readKind_toSetting (h.fileFit .environment value hfile)
      next hne =>
        cases hfile : ofFile setting with
        | none =>
            exact congrArg some (SettingName.get_environment_irrelevant hne environment).symm
        | some value => exact SettingKind.readKind_toSetting (h.fileFit setting value hfile)

theorem exists_mergedSettings? (h : vars.GiveOver files formats tree ofVariables ofFile) :
    ∃ settings members,
      fileSettings files (Environment.detect vars).settingsFile formats = .ok settings ∧
        mergedSettings? (Environment.detect vars) settings vars = some (.table members) ∧
          Setting.IsMerged (Environment.detect vars) tree vars (.table members) := by
  obtain ⟨settings, hfile, htree⟩ := h.file
  have hlayers := mergedSettings?_isMerged h.named (Environment.detect vars) settings
  rw [htree] at hlayers
  generalize hresult : mergedSettings? (Environment.detect vars) settings vars = result at hlayers
  cases hlayers with
  | some hmerged =>
      obtain ⟨members, rfl⟩ := hmerged.isTable
      exact ⟨settings, members, fileSettings_eq_ok_iff.mpr hfile, hresult, hmerged⟩

theorem load_eq_error (h : vars.GiveOver files formats tree ofVariables ofFile)
    (hurl : tree.LacksDatabaseUrl vars) : AppConfig.load vars files formats = .error .unreadable := by
  obtain ⟨settings, members, hfile, hresult, hmerged⟩ := h.exists_mergedSettings?
  have hread := SettingSource.read_eq_none_of_lacksUrl ((hmerged.lacksUrl_iff h.tables).mpr hurl)
  simp only [AppConfig.load, hfile, hresult, hread, bind, Except.bind]

theorem load_eq (h : vars.GiveOver files formats tree ofVariables ofFile)
    (hurl : ¬ tree.LacksDatabaseUrl vars) {config : AppConfig}
    (hconfig : config = (ofVariables.above ofFile).complete
      { environment := Environment.detect vars }) :
    AppConfig.load vars files formats = config.validate.map fun _ => config := by
  obtain ⟨settings, members, hfile, hresult, hmerged⟩ := h.exists_mergedSettings?
  have hread : AppConfig.read .settings (.table members) = some config := by
    refine SettingSource.settings.read_eq_some_iff.mpr
      ⟨Setting.isTables_of_hasTables (hmerged.hasTables h.tables), ?_, fun setting => ?_⟩
    · rwa [hmerged.lacksUrl_iff h.tables]
    · rw [hconfig]
      exact h.readFound_eq hmerged setting
  simp only [AppConfig.load, hfile, hresult, hread, bind, Except.bind, pure, Except.pure]
  cases config.validate <;> rfl

end Variables.GiveOver

/-! ## Completion -/

/-- What reading makes of settings that are given in JSON: all others have the defaults of their
sections, but a database section without a URL is refused. -/
structure AppConfig.CompletesJson (json : Json) (given : GivenSettings) : Prop where
  read_eq : ¬ SettingSource.json.LacksUrl json →
    AppConfig.read .json json = some (given.complete {})
  read_lacksUrl : SettingSource.json.LacksUrl json → AppConfig.read .json json = none

/-- What loading makes of settings that are given in layers: the same, with the detected environment
where none is given. -/
structure AppConfig.CompletesLayers (vars : Variables) (files : List (String × String))
    (formats : List SettingsFormat) (tree : Setting) (ofVariables ofFile : GivenSettings) : Prop where
  load_eq : ¬ tree.LacksDatabaseUrl vars → ∀ config,
    config = (ofVariables.above ofFile).complete { environment := Environment.detect vars } →
      AppConfig.load vars files formats = config.validate.map fun _ => config
  load_lacksUrl : tree.LacksDatabaseUrl vars → AppConfig.load vars files formats = .error .unreadable

/-- What becomes of settings that are given, wherever they are given. -/
structure AppConfig.CompletesGiven (json : Json) (given : GivenSettings) (vars : Variables)
    (files : List (String × String)) (formats : List SettingsFormat) (tree : Setting)
    (ofVariables ofFile : GivenSettings) : Prop where
  ofJson : CompletesJson json given
  ofLayers : CompletesLayers vars files formats tree ofVariables ofFile
  /-- The built-in configuration has other defaults for two settings of the log. -/
  builtIn_iff : ∀ (settings : GivenSettings) (environment : Environment),
    settings.complete { environment } =
        settings.complete { AppConfig.builtIn with environment } ↔
      (settings .logLevel).isSome ∧ (settings .logSourceLocation).isSome

section Completion

variable {json : Json} {given : GivenSettings} {vars : Variables} {files : List (String × String)}
  {formats : List SettingsFormat} {tree : Setting} {ofVariables ofFile : GivenSettings}

theorem AppConfig.completesJson (h : SettingSource.json.Gives SettingKind.toJson json given) :
    AppConfig.CompletesJson json given where
  read_eq := h.read_eq fun _ _ => SettingKind.readKind_toJson
  read_lacksUrl := SettingSource.read_eq_none_of_lacksUrl

theorem AppConfig.completesLayers (h : vars.GiveOver files formats tree ofVariables ofFile) :
    AppConfig.CompletesLayers vars files formats tree ofVariables ofFile where
  load_eq hurl _ := h.load_eq hurl
  load_lacksUrl := h.load_eq_error

theorem AppConfig.completes_given
    (hjson : SettingSource.json.Gives SettingKind.toJson json given)
    (hlayers : vars.GiveOver files formats tree ofVariables ofFile) :
    AppConfig.CompletesGiven json given vars files formats tree ofVariables ofFile where
  ofJson := completesJson hjson
  ofLayers := completesLayers hlayers
  builtIn_iff := GivenSettings.complete_builtIn_iff

end Completion

/-- An issuer and a secret, from JSON or from a file, under a variable that turns the cache off. -/
theorem AppConfig.orchard_completed :
    ∃ given ofVariables tree,
      SettingSource.json.Gives SettingKind.toJson
          (.ofMembers [("jwt", .ofMembers [
            ("issuer", .ofString "orchard"), ("secret", .ofString "apple")])]) given ∧
        Variables.GiveOver [("PS_ENV", "prod"), ("PS__CACHE__ENABLED", "false")]
          [("config.production.toml", "[jwt]\nissuer='orchard'\nsecret='apple'")] [.toml, .json]
          tree ofVariables given ∧
        AppConfig.CompletesGiven
          (.ofMembers [("jwt", .ofMembers [
            ("issuer", .ofString "orchard"), ("secret", .ofString "apple")])]) given
          [("PS_ENV", "prod"), ("PS__CACHE__ENABLED", "false")]
          [("config.production.toml", "[jwt]\nissuer='orchard'\nsecret='apple'")] [.toml, .json]
          tree ofVariables given := by
  let given : GivenSettings := fun
    | .issuer => some "orchard"
    | .secret => some "apple"
    | _ => none
  let ofVariables : GivenSettings := fun
    | .cacheEnabled => some false
    | _ => none
  have hfit : given.Fit := by
    intro setting value hvalue
    cases setting <;> trivial
  have hjson : SettingSource.json.Gives SettingKind.toJson
      (.ofMembers [("jwt", .ofMembers [
        ("issuer", .ofString "orchard"), ("secret", .ofString "apple")])]) given := by
    refine ⟨hfit, ⟨rfl, fun place inner hinner => ?_⟩, fun setting => ?_⟩
    · cases place <;> cases hinner
      rfl
    · cases setting <;> rfl
  have hlayers : Variables.GiveOver [("PS_ENV", "prod"), ("PS__CACHE__ENABLED", "false")]
      [("config.production.toml", "[jwt]\nissuer='orchard'\nsecret='apple'")] [.toml, .json]
      (.table [("jwt", .table [("issuer", .text "orchard"), ("secret", .text "apple")])])
      ofVariables given := by
    have hdetect : Environment.detect [("PS_ENV", "prod"), ("PS__CACHE__ENABLED", "false")] =
        .production := by decide
    have hplace : Setting.pathOf "jwt" = [.child "jwt"] := by decide
    refine ⟨?_, fun setting => ?_, ⟨_, hdetect ▸ FileHolds.orchard [.toml, .json], ?_⟩, ?_,
      fun setting => ?_, ?_, hfit⟩
    · intro entry hentry
      simp only [List.mem_cons, List.not_mem_nil, or_false] at hentry
      rcases hentry with rfl | rfl
      · exact .inl (by decide)
      · exact .inr ⟨.cacheEnabled, by decide⟩
    · cases setting <;> decide
    · simp only [Setting.fileTree?, Setting.assignAll?, hplace]
      rfl
    · intro place inner hinner
      cases place <;> cases hinner
      exact ⟨_, rfl⟩
    · cases setting <;> rfl
    · intro setting value hvalue
      cases setting <;> trivial
  exact ⟨given, ofVariables, _, hjson, hlayers, completes_given hjson hlayers⟩

/-- A single setting of the database is refused, although the URL has a default; and nothing at all
is read as other settings of the log than the built-in ones. -/
theorem AppConfig.defaults_are_not_builtIn :
    AppConfig.load [("PS__DATABASE__MAX_CONNECTIONS", "50")] [] = .error .unreadable ∧
      AppConfig.read .json (.object []) = some {} ∧
        ({} : AppConfig).logging.level = "info" ∧ AppConfig.builtIn.logging.level = "debug" ∧
          ({} : AppConfig).logging.sourceLocation = false ∧
            AppConfig.builtIn.logging.sourceLocation = true := by
  have hmerged : mergedSettings? .development [] [("PS__DATABASE__MAX_CONNECTIONS", "50")] =
      some (.table [
        ("environment", .text "development"),
        ("database", .table [("max_connections", .integer 50)])]) := by
    have hvars : Variables.settings [("PS__DATABASE__MAX_CONNECTIONS", "50")] =
        [("database.max_connections", .integer 50)] := rfl
    have hpath : Setting.pathOf "database.max_connections" =
        [.child "database", .child "max_connections"] := by decide
    rw [mergedSettings?, hvars]
    simp only [Setting.assignAll?, hpath]
    rfl
  have hread : AppConfig.read .settings (.table [
      ("environment", .text "development"),
      ("database", .table [("max_connections", .integer 50)])]) = none := rfl
  have hdetect : Environment.detect [("PS__DATABASE__MAX_CONNECTIONS", "50")] = .development := rfl
  have hfile : fileSettings [] Environment.development.settingsFile = .ok [] := rfl
  refine ⟨?_, rfl, rfl, rfl, rfl, rfl⟩
  simp only [load, hdetect, hfile, hmerged, hread, bind, Except.bind]

end SessionTokens
