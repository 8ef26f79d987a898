import SessionTokens.Proofs.Config.Merging

/-! # Layers of a configuration

What a configuration is read from has, at the place of every setting, what the last layer has there
that gives the setting: the variables, the settings file, or the detected environment. A section
that the variables name is a table, and any other one is as in the file.
-/

namespace SessionTokens

open Text

/-! ## The variables -/

namespace Variables

variable {vars : Variables}

/-- Every variable that stands for settings names one of them. -/
def NameSettings (vars : Variables) : Prop :=
  ∀ entry ∈ vars, settingKey? entry.1 = none ∨
    ∃ setting : SettingName, settingKey? entry.1 = some setting.key

/-- The text that the variables have for a setting. Of several that name it, the last one counts. -/
def textOf? : Variables → SettingName → Option String
  | [], _ => none
  | (name, text) :: rest, setting =>
      (textOf? rest setting).or (if settingKey? name = some setting.key then some text else none)

/-- The variables name a setting of a section. -/
def Touch (vars : Variables) (place : ConfigSection) : Prop :=
  ∃ setting : SettingName, setting.section? = some place ∧ (vars.textOf? setting).isSome

variable {name text : String} {rest : Variables} {setting : SettingName}

theorem textOf?_cons_of_key (hkey : settingKey? name = some setting.key) (other : SettingName) :
    textOf? ((name, text) :: rest) other =
      (rest.textOf? other).or (if other = setting then some text else none) := by
  simp only [textOf?, hkey, Option.some.injEq, SettingName.key_inj, eq_comm]

theorem textOf?_cons_of_none (hkey : settingKey? name = none) :
    textOf? ((name, text) :: rest) = textOf? rest := by
  funext other
  simp only [textOf?, hkey, reduceCtorEq, if_false, Option.or_none]

theorem touch_cons_of_key (hkey : settingKey? name = some setting.key) (place : ConfigSection) :
    Touch ((name, text) :: rest) place ↔ rest.Touch place ∨ setting.section? = some place := by
  constructor
  · rintro ⟨other, hplace, hsome⟩
    rw [textOf?_cons_of_key hkey, Option.isSome_or, Bool.or_eq_true] at hsome
    rcases hsome with hsome | hsome
    · exact .inl ⟨other, hplace, hsome⟩
    · split at hsome
      next heq => exact .inr (heq ▸ hplace)
      next => cases hsome
  · rintro (⟨other, hplace, hsome⟩ | hplace)
    · refine ⟨other, hplace, ?_⟩
      rw [textOf?_cons_of_key hkey, Option.isSome_or, hsome, Bool.true_or]
    · refine ⟨setting, hplace, ?_⟩
      rw [textOf?_cons_of_key hkey, if_pos rfl, Option.isSome_or, Option.isSome_some, Bool.or_true]

end Variables

/-! ## Merged layers -/

namespace Setting

variable {tree result : Setting} {vars : Variables}

/-- A tree over which variables are merged. -/
structure IsUnder (tree : Setting) (vars : Variables) (result : Setting) : Prop where
  at?_eq : ∀ setting, result.at? setting =
    ((vars.textOf? setting).map ofText).or (tree.at? setting)
  touched : ∀ place, vars.Touch place → ∃ members, result.get? place.name = some (table members)
  untouched : ∀ place, ¬ vars.Touch place → result.get? place.name = tree.get? place.name
  isTable : ∀ members, tree = table members → ∃ others, result = table others

theorem replaced_isTable (tree : Setting) (setting : SettingName) (value : Setting) :
    ∃ members, tree.replaced setting value = table members := by
  unfold replaced
  cases setting.section? <;> exact ⟨_, rfl⟩

/-- A variable that names a setting replaces it, and the variables after it are merged over that. -/
theorem IsUnder.cons {setting : SettingName} {name text : String} {rest : Variables}
    (hkey : settingKey? name = some setting.key)
    (h : (tree.replaced setting (ofText text)).IsUnder rest result) :
    tree.IsUnder ((name, text) :: rest) result := by
  constructor
  · intro other
    rw [h.at?_eq, at?_replaced, Variables.textOf?_cons_of_key hkey]
    by_cases hother : other = setting
    · simp only [hother, if_true]
      cases rest.textOf? setting <;> rfl
    · simp only [hother, if_false, Option.or_none]
  · intro place hplace
    by_cases hrest : rest.Touch place
    · exact h.touched place hrest
    · have hsection := ((Variables.touch_cons_of_key hkey place).mp hplace).resolve_left hrest
      rw [h.untouched place hrest, get?_replaced, if_pos hsection]
      exact ⟨_, rfl⟩
  · intro place hplace
    rw [Variables.touch_cons_of_key hkey, not_or] at hplace
    rw [h.untouched place hplace.1, get?_replaced, if_neg hplace.2]
  · intro members _
    obtain ⟨replaced, hreplaced⟩ := tree.replaced_isTable setting (ofText text)
    exact h.isTable replaced hreplaced

/-- Variables that name settings can always be merged, one after the other. -/
theorem exists_assignAll?_settings (hvars : vars.NameSettings) (tree : Setting) :
    ∃ result, assignAll? vars.settings tree = some result ∧ tree.IsUnder vars result := by
  induction vars generalizing tree with
  | nil =>
      refine ⟨tree, rfl, fun _ => rfl, ?_, fun _ _ => rfl, fun members h => ⟨members, h⟩⟩
      rintro place ⟨setting, -, hsome⟩
      cases hsome
  | cons entry rest ih =>
      obtain ⟨name, text⟩ := entry
      have hrest : Variables.NameSettings rest := fun other h => hvars other (.tail _ h)
      rcases hvars (name, text) List.mem_cons_self with hkey | ⟨setting, hkey⟩
      · obtain ⟨result, hresult, h⟩ := ih hrest tree
        have htext : Variables.textOf? ((name, text) :: rest) = Variables.textOf? rest :=
          Variables.textOf?_cons_of_none hkey
        refine ⟨result, ?_, ?_, ?_, ?_, h.isTable⟩
        · simpa only [Variables.settings, List.filterMap_cons, hkey, Option.map_none] using hresult
        · simpa only [htext] using h.at?_eq
        · simpa only [Variables.Touch, htext] using h.touched
        · simpa only [Variables.Touch, htext] using h.untouched
      · obtain ⟨result, hresult, h⟩ := ih hrest (tree.replaced setting (ofText text))
        have hkey : settingKey? name = some setting.key := hkey
        refine ⟨result, ?_, h.cons hkey⟩
        rw [Variables.settings, List.filterMap_cons]
        simp only [hkey, Option.map_some, assignAll?, SettingName.pathOf_key,
          assign?_path (ofText_isWhole text), Option.bind_some]
        exact hresult

/-- A table that differs from another one in that it has an environment to begin with. -/
structure IsOverEnvironment (environment : Environment) (tree result : Setting) : Prop where
  base : ∃ members, tree = table members
  isTable : ∃ members, result = table members
  get?_eq : ∀ name, result.get? name =
    if name = "environment" then some (orText environment.name (tree.get? name))
    else tree.get? name

theorem IsOverEnvironment.assign? {environment : Environment}
    (h : tree.IsOverEnvironment environment result) (value : Setting) (name : String)
    (rest : List Step) :
    Option.Rel (IsOverEnvironment environment) (assign? value (.child name :: rest) tree)
      (Setting.assign? value (.child name :: rest) result) := by
  have hmember : member? value rest (result.get? name) =
      (member? value rest (tree.get? name)).map fun inner =>
        if name = "environment" then orText environment.name (some inner) else inner := by
    rw [h.get?_eq]
    by_cases hname : name = "environment"
    · simp only [hname, if_true, member?_orText]
    · simp only [hname, if_false, Option.map_id']
  -- so both assignments lead somewhere or neither does, and they differ in the environment at most
  rw [assign?_child, assign?_child, hmember]
  cases member? value rest (tree.get? name) with
  | none => exact .none
  | some inner =>
      refine .some ⟨⟨_, rfl⟩, ⟨_, rfl⟩, fun key => ?_⟩
      have hother : result.members.lookup key = _ := h.get?_eq key
      rw [get?_table_insert, get?_table_insert, hother]
      by_cases hkey : key = name
      · subst hkey
        simp only [if_true]
        split <;> rfl
      · simp only [hkey, if_false]
        rfl

theorem IsOverEnvironment.assignAll? {environment : Environment}
    (h : tree.IsOverEnvironment environment result) (settings : List (String × Setting)) :
    Option.Rel (IsOverEnvironment environment) (assignAll? settings tree)
      (Setting.assignAll? settings result) := by
  induction settings generalizing tree result with
  | nil => exact .some h
  | cons entry settings ih =>
      obtain ⟨key, value⟩ := entry
      obtain ⟨name, rest, hpath⟩ := exists_pathOf_eq key
      have hstep := h.assign? value name rest
      simp only [Setting.assignAll?, hpath]
      generalize Setting.assign? value (.child name :: rest) tree = first at hstep ⊢
      generalize Setting.assign? value (.child name :: rest) result = second at hstep ⊢
      cases hstep with
      | none => exact .none
      | some h => exact ih h

theorem isOverEnvironment_empty (environment : Environment) :
    (table []).IsOverEnvironment environment
      (put "environment" (.text environment.name) (table [])) := by
  have hwhole : (Setting.text environment.name).IsWhole := fun _ => nofun
  rw [put_eq hwhole]
  refine ⟨⟨_, rfl⟩, ⟨_, rfl⟩, fun name => ?_⟩
  rw [get?_table_insert]
  rfl

/-- What the layers make of the tree of a settings file. -/
structure IsMerged (environment : Environment) (tree : Setting) (vars : Variables)
    (result : Setting) : Prop where
  base : ∃ members, tree = table members
  isTable : ∃ members, result = table members
  at?_eq : ∀ setting, result.at? setting =
    ((vars.textOf? setting).map ofText).or
      (if setting = .environment then some (orText environment.name (tree.at? .environment))
      else tree.at? setting)
  touched : ∀ place, vars.Touch place → ∃ members, result.get? place.name = some (table members)
  untouched : ∀ place, ¬ vars.Touch place → result.get? place.name = tree.get? place.name

theorem IsOverEnvironment.isMerged {environment : Environment} {middle : Setting}
    (hfile : tree.IsOverEnvironment environment middle) (hvars : middle.IsUnder vars result) :
    IsMerged environment tree vars result := by
  have hsection (place : ConfigSection) : middle.get? place.name = tree.get? place.name := by
    rw [hfile.get?_eq, if_neg place.name_ne_environment]
  have hat (setting : SettingName) : middle.at? setting =
      if setting = .environment then some (orText environment.name (tree.at? .environment))
      else tree.at? setting := by
    cases hplace : setting.section? with
    | none =>
        rw [SettingName.eq_environment_of_section? hplace, if_pos rfl]
        exact (hfile.get?_eq _).trans (if_pos rfl)
    | some place =>
        have hne : setting ≠ .environment := by
          rintro rfl
          cases hplace
        simp only [at?, hplace, hsection, hne, if_false]
  obtain ⟨members, hmembers⟩ := hfile.isTable
  refine ⟨hfile.base, hvars.isTable members hmembers, fun setting => ?_, hvars.touched, fun place h => ?_⟩
  · rw [hvars.at?_eq, hat]
  · rw [hvars.untouched place h, hsection]

/-- The settings of a file as a tree, without any other layer. -/
def fileTree? (settings : List (String × Setting)) : Option Setting :=
  assignAll? settings (table [])

end Setting

/-- The layers can be merged exactly if the settings of the file make a tree. -/
theorem mergedSettings?_isMerged {vars : Variables} (hvars : vars.NameSettings)
    (environment : Environment) (file : List (String × Setting)) :
    Option.Rel (fun tree result => Setting.IsMerged environment tree vars result)
      (Setting.fileTree? file) (mergedSettings? environment file vars) := by
  have hfile := (Setting.isOverEnvironment_empty environment).assignAll? file
  simp only [mergedSettings?, Setting.fileTree?]
  generalize Setting.assignAll? file (.table []) = first at hfile ⊢
  generalize Setting.assignAll? file (.put "environment" (.text environment.name) (.table [])) =
    second at hfile ⊢
  cases hfile with
  | none => exact .none
  | @some tree middle hfile =>
      obtain ⟨result, hresult, hunder⟩ := Setting.exists_assignAll?_settings hvars middle
      rw [Option.bind_some, hresult]
      exact .some (hfile.isMerged hunder)

end SessionTokens
