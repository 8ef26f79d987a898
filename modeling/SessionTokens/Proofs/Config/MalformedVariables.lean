import SessionTokens.Proofs.Config.PlainVariables

/-! # Malformed plain variables

A malformed number or truth value is an error that names its variable and says what is wrong with
it. Only the two numbers of the connection pool are passed over when they are malformed, and white
space around them already makes them so.
-/

namespace SessionTokens

open Text

/-! ## What can be wrong -/

/-- The range of the numbers of a kind. -/
def SettingKind.bounds? : SettingKind → Option IntegerBounds
  | .signed => some .signed64
  | .natural => some .unsigned64
  | .natural32 => some .unsigned32
  | .text | .flag | .environment | .format => none

namespace Variables

/-- Whether a setting has a variable for a number or a truth value, and the text of it spells none
even without the white space around it. -/
def Malformed (vars : Variables) (setting : SettingName) : Prop :=
  setting.kind ≠ .text ∧
    ∃ text, vars.plain? setting = some text ∧
      ∀ value, ¬ setting.kind.Spells (trim text.toList) value

/-- The errors that variables deserve. -/
inductive HasProblem (vars : Variables) : ConfigError → Prop
  /-- The text of a number is refused with the first thing that is wrong with it. -/
  | number {setting : SettingName} {name text : String} {bounds : IntegerBounds}
      {cause : IntegerError} (hname : setting.plainName? = some name)
      (hstrict : setting.isLenient = false) (hbounds : setting.kind.bounds? = some bounds)
      (htext : vars.value? name = some text)
      (hread : readInteger bounds (trim text.toList) = .error cause) :
      HasProblem vars (.invalid name cause.message)
  | flag {setting : SettingName} {name text : String} (hname : setting.plainName? = some name)
      (hkind : setting.kind = .flag) (htext : vars.value? name = some text)
      (hnone : ∀ value, ¬ SettingKind.flag.Spells (trim text.toList) value) :
      HasProblem vars (.invalid name "provided string was not \x60true\x60 or \x60false\x60")
  /-- The token settings that the variables spell do not obey their rules. -/
  | rule {config : AppConfig} {rule : SettingRule} (hsettled : vars.SettleSection config .jwt)
      (hrule : rule ∈ config.jwt.rules) (hbroken : rule.holds = false) :
      HasProblem vars (.invalid rule.key rule.problem)

end Variables

/-! ## Where an error comes from -/

theorem bind_eq_error {ε α β : Type} {first : Except ε α} {next : α → Except ε β} {error : ε} :
    first >>= next = .error error ↔
      first = .error error ∨ ∃ value, first = .ok value ∧ next value = .error error := by
  cases first with
  | error cause => simp [bind, Except.bind]
  | ok value => simp [bind, Except.bind]

theorem SettingRule.checkAll_eq_error {rules : List SettingRule} {error : ConfigError}
    (h : checkAll rules = .error error) :
    ∃ rule ∈ rules, rule.holds = false ∧ error = .invalid rule.key rule.problem := by
  induction rules with
  | nil => cases h
  | cons rule rest ih =>
      rw [checkAll] at h
      split at h
      next =>
        obtain ⟨broken, hbroken, hreason⟩ := ih h
        exact ⟨broken, List.mem_cons_of_mem rule hbroken, hreason⟩
      next hbroken =>
        exact ⟨rule, List.mem_cons_self, Bool.eq_false_iff.mpr hbroken, (Except.error.inj h).symm⟩

theorem mapError_eq_error_iff {result : Except ε α} {f : ε → φ} {problem : φ} :
    result.mapError f = .error problem ↔ ∃ cause, result = .error cause ∧ problem = f cause := by
  cases result with
  | error cause =>
      have hmapped : (Except.error cause : Except ε α).mapError f = .error (f cause) := rfl
      rw [hmapped, Except.error.injEq, eq_comm]
      simp
  | ok value => exact iff_of_false nofun fun ⟨_, hresult, _⟩ => nomatch hresult

theorem readBounded_eq_error {bounds : IntegerBounds} {text : List Char} {problem : String}
    (h : readBounded bounds text = .error problem) :
    ∃ cause, readInteger bounds text = .error cause ∧ problem = cause.message :=
  mapError_eq_error_iff.mp h

theorem readNatural_eq_error {bounds : IntegerBounds} {text : List Char} {problem : String}
    (h : readNatural bounds text = .error problem) :
    ∃ cause, readInteger bounds text = .error cause ∧ problem = cause.message := by
  refine readBounded_eq_error ?_
  rw [readNatural] at h
  cases hread : readBounded bounds text with
  | error found =>
      rw [hread] at h
      exact congrArg Except.error (Except.error.inj h)
  | ok value =>
      rw [hread] at h
      cases h

theorem readFlag_eq_error {text : List Char} {problem : String}
    (h : readFlag text = .error problem) :
    (∀ value, ¬ SettingKind.flag.Spells text value) ∧
      problem = "provided string was not \x60true\x60 or \x60false\x60" := by
  constructor
  · intro value hvalue
    have hread := readFlag_eq_ok_iff.mpr hvalue
    rw [h] at hread
    cases hread
  · unfold readFlag at h
    split at h
    next => cases h
    next => cases h
    next => exact (Except.error.inj h).symm

namespace Variables

variable {vars : Variables} {name : String} {error : ConfigError}

theorem readOr_eq_error {default : α} {read : List Char → Except String α}
    (h : vars.readOr name default read = .error error) :
    ∃ text problem, vars.value? name = some text ∧ read (trim text.toList) = .error problem ∧
      error = .invalid name problem := by
  rw [readOr] at h
  split at h
  next => cases h
  next text htext =>
    obtain ⟨problem, hread, rfl⟩ := mapError_eq_error_iff.mp h
    exact ⟨text, problem, htext, hread, rfl⟩

theorem HasProblem.of_number (setting : SettingName) {default : α} {bounds : IntegerBounds}
    {read : List Char → Except String α} (hname : setting.plainName? = some name)
    (hstrict : setting.isLenient = false) (hbounds : setting.kind.bounds? = some bounds)
    (hread : ∀ {text problem}, read text = .error problem →
      ∃ cause, readInteger bounds text = .error cause ∧ problem = cause.message)
    (h : vars.readOr name default read = .error error) : vars.HasProblem error := by
  obtain ⟨text, problem, htext, hproblem, rfl⟩ := readOr_eq_error h
  obtain ⟨cause, hcause, rfl⟩ := hread hproblem
  exact .number hname hstrict hbounds htext hcause

theorem HasProblem.of_flag (setting : SettingName) {default : Bool}
    (hname : setting.plainName? = some name) (hkind : setting.kind = .flag)
    (h : vars.readOr name default readFlag = .error error) :
    vars.HasProblem error := by
  obtain ⟨text, problem, htext, hproblem, rfl⟩ := readOr_eq_error h
  obtain ⟨hnone, rfl⟩ := readFlag_eq_error hproblem
  exact .flag hname hkind htext hnone

theorem HasProblem.exists_invalid (h : vars.HasProblem error) :
    ∃ key problem, error = .invalid key problem := by
  cases h <;> exact ⟨_, _, rfl⟩

end Variables

section Sections

variable {vars : Variables} {error : ConfigError}

open Variables

theorem JwtConfig.hasProblem_of_ofVariables (h : JwtConfig.ofVariables vars = .error error) :
    vars.HasProblem error := by
  obtain h | ⟨accessLifetime, haccess, h⟩ := bind_eq_error.mp h
  · exact .of_number .accessLifetime rfl rfl rfl readBounded_eq_error h
  obtain h | ⟨refreshLifetime, hrefresh, h⟩ := bind_eq_error.mp h
  · exact .of_number .refreshLifetime rfl rfl rfl readBounded_eq_error h
  obtain h | ⟨deletionGrace, hgrace, h⟩ := bind_eq_error.mp h
  · exact .of_number .deletionGrace rfl rfl rfl readBounded_eq_error h
  obtain h | ⟨_, _, h⟩ := bind_eq_error.mp h
  · -- all three lifetimes were read, so that the section is settled
    obtain ⟨rule, hrule, hbroken, rfl⟩ := SettingRule.checkAll_eq_error h
    let config : AppConfig := {
      jwt := {
        issuer := (vars.value? "JWT_ISSUER").getD "picshare"
        secret := (vars.value? "JWT_SECRET").getD defaultSecret
        accessLifetime
        refreshLifetime
        deletionGrace } }
    have hsettled : vars.SettleSection config .jwt :=
      settleSection_jwt_iff.mpr ⟨rfl, rfl, haccess, hrefresh, hgrace⟩
    exact .rule hsettled hrule hbroken
  · cases h

theorem CacheConfig.hasProblem_of_ofVariables (h : CacheConfig.ofVariables vars = .error error) :
    vars.HasProblem error := by
  obtain h | ⟨enabled, -, h⟩ := bind_eq_error.mp h
  · exact .of_flag .cacheEnabled rfl rfl h
  obtain h | ⟨budget, -, h⟩ := bind_eq_error.mp h
  · exact .of_number .cacheBudget rfl rfl rfl readNatural_eq_error h
  · cases h

theorem ReaperConfig.hasProblem_of_ofVariables (h : ReaperConfig.ofVariables vars = .error error) :
    vars.HasProblem error := by
  obtain h | ⟨enabled, -, h⟩ := bind_eq_error.mp h
  · exact .of_flag .reaperEnabled rfl rfl h
  obtain h | ⟨interval, -, h⟩ := bind_eq_error.mp h
  · exact .of_number .reaperInterval rfl rfl rfl readNatural_eq_error h
  · cases h

/-- Every error is about a variable that is set, or about a rule of the token settings. -/
theorem AppConfig.hasProblem_of_ofVariables (h : AppConfig.ofVariables vars = .error error) :
    vars.HasProblem error := by
  obtain h | ⟨jwt, -, h⟩ := bind_eq_error.mp h
  · exact JwtConfig.hasProblem_of_ofVariables h
  obtain h | ⟨cache, -, h⟩ := bind_eq_error.mp h
  · exact CacheConfig.hasProblem_of_ofVariables h
  obtain h | ⟨reaper, -, h⟩ := bind_eq_error.mp h
  · exact ReaperConfig.hasProblem_of_ofVariables h
  · cases h

end Sections

/-! ## What stands in the way -/

/-- What a variable says outside the connection pool is what its setting has. -/
theorem AppConfig.spells_of_ofVariables {vars : Variables} {config : AppConfig}
    {setting : SettingName} {text : String} (h : AppConfig.ofVariables vars = .ok config)
    (hkind : setting.kind ≠ .text) (hstrict : setting.isLenient = false)
    (htext : vars.plain? setting = some text) :
    setting.kind.Spells (trim text.toList) (setting.get config) := by
  have hsettle := (AppConfig.ofVariables_eq_ok_iff.mp h).2 setting
  rw [Variables.settle_of_set htext, SettingName.content_of_not_isLenient hkind hstrict] at hsettle
  refine hsettle.resolve_right fun ⟨hlenient, _⟩ => ?_
  exact absurd (hstrict.symm.trans hlenient) (by decide)

theorem SettingKind.exists_readInteger {kind : SettingKind} {bounds : IntegerBounds}
    {text : List Char} {value : kind.Value} (hbounds : kind.bounds? = some bounds)
    (h : kind.Spells text value) : ∃ n, readInteger bounds text = .ok n := by
  cases kind <;> cases hbounds
  · exact ⟨_, (readInteger_eq_ok_iff (by decide)).mpr ⟨h.1, h.2, fun _ => by decide⟩⟩
  · exact ⟨_, (readInteger_eq_ok_iff (by decide)).mpr ⟨h.1, h.2.1, (absurd · h.2.2)⟩⟩
  · exact ⟨_, (readInteger_eq_ok_iff (by decide)).mpr ⟨h.1, h.2.1, (absurd · h.2.2)⟩⟩

/-- Variables settle the token settings in one way. -/
theorem Variables.jwt_eq_of_settleSection {vars : Variables} {config other : AppConfig}
    (h : vars.SettleSection config .jwt) (hother : vars.SettleSection other .jwt) :
    config.jwt = other.jwt := by
  obtain ⟨hissuer, hsecret, haccess, hrefresh, hgrace⟩ := settleSection_jwt_iff.mp h
  obtain ⟨hissuer', hsecret', haccess', hrefresh', hgrace'⟩ := settleSection_jwt_iff.mp hother
  exact JwtConfig.ext (hissuer.symm.trans hissuer') (hsecret.symm.trans hsecret')
    (Except.ok.inj (haccess.symm.trans haccess')) (Except.ok.inj (hrefresh.symm.trans hrefresh'))
    (Except.ok.inj (hgrace.symm.trans hgrace'))

theorem Variables.HasProblem.ofVariables_ne_ok {vars : Variables} {error : ConfigError}
    (hproblem : vars.HasProblem error) (config : AppConfig) :
    AppConfig.ofVariables vars ≠ .ok config := by
  intro h
  cases hproblem with
  | @number setting _ text _ _ hname hstrict hbounds htext hread =>
      have hkind : setting.kind ≠ .text := fun heq => by
        rw [heq] at hbounds
        cases hbounds
      have hplain := (plain?_eq hname).trans htext
      have hspells := AppConfig.spells_of_ofVariables h hkind hstrict hplain
      obtain ⟨n, hn⟩ := SettingKind.exists_readInteger hbounds hspells
      rw [hread] at hn
      cases hn
  | @flag setting _ text hname hkind htext hnone =>
      have hstrict : setting.isLenient = false := by
        cases setting <;> first | rfl | cases hkind
      have hplain := (plain?_eq hname).trans htext
      have hspells := AppConfig.spells_of_ofVariables h (hkind ▸ nofun) hstrict hplain
      have hnone (value : setting.kind.Value) :
          ¬ setting.kind.Spells (trim text.toList) value := by
        revert value
        rw [hkind]
        exact hnone
      exact hnone _ hspells
  | @rule settled rule hsettled hrule hbroken =>
      obtain ⟨hvalid, hsettle⟩ := AppConfig.ofVariables_eq_ok_iff.mp h
      have hjwt := jwt_eq_of_settleSection hsettled fun setting _ => hsettle setting
      have hholds := SettingRule.checkAll_eq_ok.mp hvalid rule (hjwt ▸ hrule)
      exact absurd (hbroken.symm.trans hholds) (by decide)

/-! ## What becomes of malformed variables -/

/-- What becomes of variables for numbers and truth values. -/
structure Variables.Heeds (vars : Variables) : Prop where
  refused : ∀ setting, setting.isLenient = false → vars.Malformed setting →
    ∃ key problem, AppConfig.ofVariables vars = .error (.invalid key problem)
  reported : ∀ error, AppConfig.ofVariables vars = .error error → vars.HasProblem error
  fails_iff : (∃ error, AppConfig.ofVariables vars = .error error) ↔ ∃ error, vars.HasProblem error
  kept : ∀ (config : AppConfig) (setting : SettingName) (text : String),
    AppConfig.ofVariables vars = .ok config → setting.kind ≠ .text → setting.isLenient = false →
      vars.plain? setting = some text →
        setting.kind.Spells (trim text.toList) (setting.get config)
  /-- A number of the connection pool is kept if its text is one with nothing around it; otherwise
  it has its default. -/
  pool : ∀ (config : AppConfig) (setting : SettingName) (text : String),
    AppConfig.ofVariables vars = .ok config → setting.isLenient = true →
      vars.plain? setting = some text →
        setting.kind.Spells text.toList (setting.get config) ∨
          (∀ other, ¬ setting.kind.Spells text.toList other) ∧
            setting.get config = setting.get ({} : AppConfig)

theorem Variables.exists_error_of_forall_ne {vars : Variables}
    (h : ∀ config, AppConfig.ofVariables vars ≠ .ok config) :
    ∃ error, AppConfig.ofVariables vars = .error error := by
  cases hresult : AppConfig.ofVariables vars with
  | ok config => exact absurd hresult (h config)
  | error error => exact ⟨error, rfl⟩

/-- Outside the connection pool no malformed variable is ignored. -/
theorem Variables.malformed_are_heeded (vars : Variables) : vars.Heeds where
  refused := by
    rintro setting hstrict ⟨hkind, text, htext, hnone⟩
    obtain ⟨error, herror⟩ := exists_error_of_forall_ne fun config h =>
      hnone _ (AppConfig.spells_of_ofVariables h hkind hstrict htext)
    obtain ⟨key, problem, rfl⟩ := (AppConfig.hasProblem_of_ofVariables herror).exists_invalid
    exact ⟨key, problem, herror⟩
  reported _ := AppConfig.hasProblem_of_ofVariables
  fails_iff := by
    constructor
    · rintro ⟨error, herror⟩
      exact ⟨error, AppConfig.hasProblem_of_ofVariables herror⟩
    · rintro ⟨error, hproblem⟩
      exact exists_error_of_forall_ne hproblem.ofVariables_ne_ok
  kept _ _ _ h hkind hstrict htext := AppConfig.spells_of_ofVariables h hkind hstrict htext
  pool := by
    intro config setting text h hlenient htext
    have hsettle := (AppConfig.ofVariables_eq_ok_iff.mp h).2 setting
    rw [settle_of_set htext, SettingName.content_of_isLenient hlenient] at hsettle
    exact hsettle.imp_right And.right

/-- A misspelled size of the connection pool goes unnoticed, and so does one with blanks around
it. -/
theorem Variables.malformed_pool_size_is_ignored :
    (Variables.Malformed [("DATABASE_MAX_CONNECTIONS", "abc")] .maxConnections ∧
      ∃ config, AppConfig.ofVariables [("DATABASE_MAX_CONNECTIONS", "abc")] = .ok config ∧
        config.database.maxConnections = 10) ∧
    (SettingKind.natural32.Spells (trim " 20 ".toList) 20 ∧
      ∃ config, AppConfig.ofVariables [("DATABASE_MAX_CONNECTIONS", " 20 ")] = .ok config ∧
        config.database.maxConnections = 10) := by
  refine ⟨⟨⟨by decide, "abc", rfl, fun value hvalue => ?_⟩, _, rfl, rfl⟩, ?_, _, rfl, rfl⟩
  · have hread := readNatural32_eq_ok_iff.mpr hvalue
    cases hread
  · exact readNatural32_eq_ok_iff.mp rfl

end SessionTokens
