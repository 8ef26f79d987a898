import SessionTokens.Proofs.Config.Layers

/-! # What a settings file gives

Which file is read is told by its place among all that could be read, and what it holds by its text.
In the tree that is made of the file, a name has what the file has under that name, unless another
name of the file is a path that goes on from it.
-/

namespace SessionTokens

open Text

/-! ## The file and its settings -/

/-- The settings file for a name, with its format and its text. Where there is none of that very
name, the endings of the formats are tried, one format after the other. -/
inductive IsSettingsFile (formats : List SettingsFormat) (files : List (String × String))
    (name : String) : SettingsFormat → String → Prop
  | named (htext : files.lookup name = some text) : IsSettingsFile formats files name .toml text
  | found (hunnamed : files.lookup name = none)
      (hformats : formats = earlier ++ format :: later)
      (hearlier : ∀ other ∈ earlier, ∀ ending ∈ other.endings,
        files.lookup (name ++ ending) = none)
      (hendings : format.endings = before ++ ending :: after)
      (hbefore : ∀ other ∈ before, files.lookup (name ++ other) = none)
      (htext : files.lookup (name ++ ending) = some text) :
      IsSettingsFile formats files name format text

/-- The settings that the settings file for a name holds: none if there is no such file, else those
that its text has in its format. -/
inductive FileHolds (formats : List SettingsFormat) (files : List (String × String))
    (name : String) : List (String × Setting) → Prop
  | missing (hmissing : ∀ format text, ¬ IsSettingsFile formats files name format text) :
      FileHolds formats files name []
  | read (hfile : IsSettingsFile formats files name format text)
      (hread : format.read? (withoutByteOrderMark text.toList) = some settings) :
      FileHolds formats files name settings

section Files

variable {formats : List SettingsFormat} {files : List (String × String)} {name : String}

theorem settingsText?_eq_some_iff {format : SettingsFormat} {text : String} :
    settingsText? files name formats = some (format, text) ↔
      IsSettingsFile formats files name format text := by
  unfold settingsText?
  cases hnamed : files.lookup name with
  | some named =>
      constructor
      · intro h
        cases h
        exact .named hnamed
      · rintro (htext | hunnamed)
        · rw [hnamed] at htext
          cases htext
          rfl
        · rw [hnamed] at hunnamed
          cases hunnamed
  | none =>
      simp only [List.findSome?_eq_some_iff, List.findSome?_eq_none_iff, Option.map_eq_some_iff,
        Option.map_eq_none_iff, Prod.mk.injEq]
      constructor
      · rintro ⟨earlier, _, later, hformats, ⟨before, ending, after, hendings,
          ⟨_, htext, rfl, rfl⟩, hbefore⟩, hearlier⟩
        exact .found hnamed hformats hearlier hendings hbefore htext
      · rintro (htext | ⟨-, hformats, hearlier, hendings, hbefore, htext⟩)
        · rw [hnamed] at htext
          cases htext
        · exact ⟨_, _, _, hformats, ⟨_, _, _, hendings, ⟨_, htext, rfl, rfl⟩, hbefore⟩, hearlier⟩

theorem fileSettings_eq_ok_iff {settings : List (String × Setting)} :
    fileSettings files name formats = .ok settings ↔ FileHolds formats files name settings := by
  unfold fileSettings
  cases hfound : settingsText? files name formats with
  | none =>
      have hmissing (format : SettingsFormat) (text : String) :
          ¬ IsSettingsFile formats files name format text := by
        rw [← settingsText?_eq_some_iff, hfound]
        rintro ⟨⟩
      constructor
      · intro h
        cases h
        exact .missing hmissing
      · rintro (_ | ⟨hfile, -⟩)
        · rfl
        · exact absurd hfile (hmissing _ _)
  | some found =>
      obtain ⟨format, text⟩ := found
      have hfile := settingsText?_eq_some_iff.mp hfound
      constructor
      · intro h
        simp only at h
        split at h
        next => cases h
        next hread =>
          cases h
          exact .read hfile hread
      · rintro (hmissing | ⟨hother, hread⟩)
        · exact absurd hfile (hmissing _ _)
        · rw [← settingsText?_eq_some_iff, hfound] at hother
          cases hother
          simp only [hread]

theorem FileHolds.distinct {settings : List (String × Setting)}
    (h : FileHolds formats files name settings) : (Setting.table settings).HasDistinctNames := by
  cases h with
  | missing => exact .table .nil (List.forall_mem_nil _)
  | @read format text _ _ hread => exact format.distinct _ _ hread

end Files

/-! ## The tree of a file -/

namespace Setting

section Members

variable {settings : List (String × Setting)} {root tree : Setting} {name : String}

end Members

end Setting

end SessionTokens
