import SessionTokens.Config.Layered
import SessionTokens.Proofs.Config.Respelling
import SessionTokens.Proofs.Config.SettingNames

/-! # Merging into a tree of settings

An assignment to the place of a setting changes what stands there and nothing else, whatever stood
in its way. So of two layers the later one decides on every setting that it gives, and leaves all
others to the earlier one, also within one section.
-/

namespace SessionTokens

open Text

/-! ## Places and keys -/

theorem ConfigSection.name_inj {place other : ConfigSection} :
    place.name = other.name ↔ place = other := by
  constructor
  · intro h
    cases place <;> cases other <;> first | rfl | exact absurd h (by decide)
  · rintro rfl
    rfl

theorem ConfigSection.name_ne_environment (place : ConfigSection) :
    place.name ≠ "environment" := by
  cases place <;> decide

namespace SettingName

theorem eq_environment_of_section? {setting : SettingName} (h : setting.section? = none) :
    setting = .environment := by
  cases setting <;> first | rfl | cases h

/-- The key of a setting spells the path to it. -/
theorem pathOf_key (setting : SettingName) : Setting.pathOf setting.key = setting.path := by
  cases setting <;> decide

theorem path_injective {setting other : SettingName} (h : setting.path = other.path) :
    setting = other := by
  unfold path at h
  cases hsection : setting.section? <;> cases hother : other.section? <;>
    simp only [hsection, hother, List.cons.injEq, Setting.Step.child.injEq, ConfigSection.name_inj,
      reduceCtorEq, and_false, and_true] at h
  · exact eq_of_place (hsection.trans hother.symm) h
  · obtain ⟨rfl, hname⟩ := h
    exact eq_of_place (hsection.trans hother.symm) hname

theorem key_inj {setting other : SettingName} : setting.key = other.key ↔ setting = other := by
  constructor
  · intro h
    apply path_injective
    rw [← pathOf_key, h, pathOf_key]
  · rintro rfl
    rfl

end SettingName

namespace Setting

variable {value root tree other : Setting}

/-! ## Assignments -/

/-- What a tree has at the place of a setting. -/
def at? (tree : Setting) (setting : SettingName) : Option Setting :=
  match setting.section? with
  | none => tree.get? setting.name
  | some place => (tree.get? place.name).bind fun inner => inner.get? setting.name

/-- A value that is merged as a whole. -/
def IsWhole (value : Setting) : Prop := ∀ members, value ≠ .table members

theorem isWhole_of_toText? {text : String} (h : value.toText? = some text) : value.IsWhole := by
  rintro members rfl
  cases h

theorem ofText_isWhole (text : String) : (ofText text).IsWhole :=
  isWhole_of_toText? (toText?_ofText text)

theorem get?_table_insert (name key : String) (value : Setting)
    (members : List (String × Setting)) :
    (table (insert name value members)).get? key =
      if key = name then some value else members.lookup key :=
  lookup_insert name key value members

theorem put_eq (h : value.IsWhole) (name : String) (root : Setting) :
    put name value root = table (insert name value root.members) := by
  cases value with
  | table members => exact absurd rfl (h members)
  | absent | flag | integer | real | text | list => simp [put]

/-- The tree after an assignment to the place of a setting. -/
def replaced (tree : Setting) (setting : SettingName) (value : Setting) : Setting :=
  match setting.section? with
  | none => table (insert setting.name value tree.members)
  | some place =>
      table (insert place.name
        (table (insert setting.name value ((tree.get? place.name).getD absent).members))
        tree.members)

theorem assign?_path (h : value.IsWhole) (setting : SettingName) (root : Setting) :
    assign? value setting.path root = some (root.replaced setting value) := by
  unfold SettingName.path replaced
  cases setting.section? <;> simp only [assign?, put_eq h, Option.map_some]

theorem get?_replaced (tree : Setting) (setting : SettingName) (value : Setting)
    (place : ConfigSection) :
    (tree.replaced setting value).get? place.name =
      if setting.section? = some place then
        some (table (insert setting.name value ((tree.get? place.name).getD absent).members))
      else tree.get? place.name := by
  unfold replaced
  cases hsection : setting.section? with
  | none =>
      rw [SettingName.eq_environment_of_section? hsection]
      simp only [get?_table_insert, SettingName.name, place.name_ne_environment, if_false,
        reduceCtorEq]
      rfl
  | some other =>
      simp only [get?_table_insert, ConfigSection.name_inj, Option.some.injEq]
      by_cases heq : place = other
      · simp [heq]
      · simp only [heq, Ne.symm heq, if_false]
        rfl

theorem lookup_members_getD (found : Option Setting) (name : String) :
    (found.getD absent).members.lookup name = found.bind fun inner => inner.get? name := by
  cases found <;> rfl

theorem at?_replaced (tree : Setting) (setting other : SettingName) (value : Setting) :
    (tree.replaced setting value).at? other =
      if other = setting then some value else tree.at? other := by
  unfold at?
  cases hother : other.section? with
  | none =>
      cases hsection : setting.section? with
      | none =>
          rw [SettingName.eq_environment_of_section? hother,
            SettingName.eq_environment_of_section? hsection, if_pos rfl]
          exact (get?_table_insert ..).trans (if_pos rfl)
      | some place =>
          have hne : other ≠ setting := by
            rintro rfl
            rw [hother] at hsection
            cases hsection
          rw [SettingName.eq_environment_of_section? hother] at hne ⊢
          simp only [replaced, hsection, hne, if_false, get?_table_insert]
          exact if_neg place.name_ne_environment.symm
  | some place =>
      simp only [get?_replaced]
      by_cases hsection : setting.section? = some place
      · have hiff : other.name = setting.name ↔ other = setting :=
          ⟨SettingName.eq_of_place (hother.trans hsection.symm), fun h => h ▸ rfl⟩
        simp only [hsection, if_true, Option.bind_some, get?_table_insert, hiff,
          lookup_members_getD]
      · have hne : other ≠ setting := by
          rintro rfl
          exact hsection hother
        simp only [hsection, hne, if_false]

/-- What an assignment through a member makes of the member. -/
def member? (value : Setting) (rest : List Step) (old : Option Setting) : Option Setting :=
  match rest, value with
  | [], table incoming => some (putAll incoming (old.getD (table [])))
  | [], value => some value
  | rest, value => assign? value rest (old.getD absent)

theorem assign?_child (value : Setting) (name : String) (rest : List Step) (root : Setting) :
    assign? value (.child name :: rest) root =
      (member? value rest (root.get? name)).map fun inner =>
        table (insert name inner root.members) := by
  cases rest with
  | nil => cases value <;> simp [assign?, put, member?]
  | cons step rest => rfl

/-- Every key leads through a member of the table. -/
theorem exists_pathOf_eq (key : String) : ∃ name rest, pathOf key = .child name :: rest := by
  simp only [pathOf, Option.bind_eq_bind]
  cases takeName key.toList with
  | none => exact ⟨key, [], rfl⟩
  | some found =>
      simp only [Option.bind_some]
      cases takeSteps found.2.length found.2 with
      | none => exact ⟨key, [], rfl⟩
      | some steps => exact ⟨found.1, steps, rfl⟩

/-! ## A text that gives way -/

/-- Two values that make the same room for what is assigned below them. -/
structure SameRoom (tree other : Setting) : Prop where
  members : tree.members = other.members
  items : tree.items = other.items

theorem SameRoom.putAll_eq (h : SameRoom tree other) (member : String × Setting)
    (rest : List (String × Setting)) :
    putAll (member :: rest) tree = putAll (member :: rest) other := by
  obtain ⟨name, value⟩ := member
  cases value <;> simp only [putAll, put, get?, h.members]

theorem SameRoom.assign?_eq (h : SameRoom tree other) (value : Setting) (step : Step)
    (rest : List Step) : assign? value (step :: rest) tree = assign? value (step :: rest) other := by
  cases step with
  | child name => rw [assign?_child, assign?_child, get?, get?, h.members]
  | index place => cases rest <;> simp only [assign?, h.items]

theorem insert_ne_nil (name : String) (value : Setting) (members : List (String × Setting)) :
    insert name value members ≠ [] := by
  cases members with
  | nil => exact List.cons_ne_nil _ _
  | cons member rest =>
      rw [insert]
      split <;> exact List.cons_ne_nil _ _

theorem put_ne_empty (name : String) (value root : Setting) : put name value root ≠ table [] := by
  cases value <;> simp [put, insert_ne_nil]

theorem putAll_ne_empty (members : List (String × Setting)) {root : Setting}
    (h : root ≠ table []) : putAll members root ≠ table [] := by
  induction members generalizing root with
  | nil => rwa [putAll]
  | cons member rest ih =>
      rw [putAll]
      exact ih (put_ne_empty _ _ _)

theorem assign?_ne_empty {value root : Setting} {step : Step} {rest : List Step} :
    assign? value (step :: rest) root ≠ some (table []) := by
  cases step with
  | child name =>
      rw [assign?_child]
      intro h
      obtain ⟨inner, -, htable⟩ := Option.map_eq_some_iff.mp h
      exact insert_ne_nil _ _ _ (table.inj htable)
  | index place =>
      cases rest with
      | nil => simp [assign?]
      | cons next rest => simp [assign?, Option.bind_eq_some_iff]

/-- What a tree has where another one had a text before. An empty table does not take its place. -/
def orText (text : String) : Option Setting → Setting
  | none | some (.table []) => .text text
  | some value => value

theorem orText_eq {value : Setting} (h : value ≠ table []) (text : String) :
    orText text (some value) = value := by
  unfold orText
  split
  next heq => cases heq
  next heq => exact absurd (Option.some.inj heq) h
  next heq => exact (Option.some.inj heq).symm

theorem orText_sameRoom (text : String) (old : Option Setting) {empty : Setting}
    (hmembers : empty.members = []) (hitems : empty.items = []) :
    SameRoom (orText text old) (old.getD empty) := by
  unfold orText
  split
  next => exact ⟨hmembers.symm, hitems.symm⟩
  next => exact ⟨rfl, rfl⟩
  next => exact ⟨rfl, rfl⟩

/-- Below a text, an assignment finds as much room as below nothing. -/
theorem member?_orText (text : String) (value : Setting) (rest : List Step)
    (old : Option Setting) :
    member? value rest (some (orText text old)) =
      (member? value rest old).map fun inner => orText text (some inner) := by
  cases rest with
  | nil =>
      cases value with
      | table incoming =>
          cases incoming with
          -- only a table without members leaves what it is merged into as it was
          | nil =>
              simp only [member?, putAll, Option.getD_some, Option.map_some]
              cases old <;> rfl
          | cons member incoming =>
              have hroom : SameRoom (orText text old) (old.getD (.table [])) :=
                orText_sameRoom text old rfl rfl
              have hne : putAll (member :: incoming) (old.getD (.table [])) ≠ .table [] := by
                rw [putAll]
                exact putAll_ne_empty _ (put_ne_empty _ _ _)
              simp only [member?, Option.getD_some, Option.map_some, hroom.putAll_eq,
                orText_eq hne]
      | absent | flag | integer | real | text | list => rfl
  | cons step rest =>
      have hroom : SameRoom (orText text old) (old.getD absent) :=
        orText_sameRoom text old rfl rfl
      have heq : member? value (step :: rest) (some (orText text old)) =
          member? value (step :: rest) old := by
        simp only [member?, Option.getD_some, hroom.assign?_eq]
      rw [heq]
      cases hinner : member? value (step :: rest) old with
      | none => rfl
      | some inner =>
          have hne : inner ≠ .table [] := by
            rintro rfl
            exact assign?_ne_empty hinner
          rw [Option.map_some, orText_eq hne]

end Setting

end SessionTokens
