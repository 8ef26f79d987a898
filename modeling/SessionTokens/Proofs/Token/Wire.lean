import SessionTokens.Proofs.Json.Records
import SessionTokens.Proofs.Json.Writing
import SessionTokens.Proofs.Time.Timestamps
import SessionTokens.Token.Wire

/-! # Reading what was written

A codec is lawful when its reader takes the written form of every value back, and the written form
is JSON that can be written as text. For the records this comes from their fields. A lawful codec
gives every accepted text a canonical form, which is what its value is written as.
-/

namespace SessionTokens

open Json Text Time

/-! ## The fields of a written record -/

namespace Json

theorem filter_le_one_of_nodup {members : List (String × Json)}
    (h : (members.map Prod.fst).Nodup) (name : String) :
    (members.filter fun member => member.1 == name).length ≤ 1 := by
  induction members with
  | nil => exact Nat.zero_le 1
  | cons member members ih =>
      rw [List.map_cons, List.nodup_cons] at h
      rw [List.filter_cons]
      split
      next heq =>
        have habsent : Absent members name := by
          rintro other hother rfl
          rw [eq_of_beq heq] at h
          exact h.1 (List.mem_map_of_mem hother)
        rw [List.filter_eq_nil_iff.mpr fun other hother => by simpa using habsent other hother]
        exact Nat.le_refl 1
      next => exact ih h.2

/-- An object of all the fields in order is read as these fields. -/
theorem fields_ofMembers {names : List String} {members : List (String × Json)}
    (hnames : members.map Prod.fst = names) (hdistinct : names.Nodup) :
    fields names (.ofMembers members) = some ⟨false, members⟩ := by
  subst hnames
  refine objectFields_eq_some_iff.mpr ⟨members, rfl, ⟨fun name _ => ?_, ?_⟩, rfl⟩
  · exact filter_le_one_of_nodup hdistinct name
  · symm
    rw [List.filter_eq_self]
    intro member hmember
    exact List.contains_iff_mem.mpr (List.mem_map_of_mem hmember)

end Json

namespace Wire

/-- A codec that loses nothing. -/
class LawfulCodec (α : Type) [Codec α] : Prop where
  isWritable_toJson : ∀ value : α, (toJson value).isWritable = true
  ofJson?_toJson : ∀ value : α, ofJson? (toJson value) = some value

open LawfulCodec

instance : LawfulCodec String where
  isWritable_toJson _ := rfl
  ofJson?_toJson _ := rfl

instance : LawfulCodec Timestamp where
  isWritable_toJson _ := rfl
  ofJson?_toJson t := by
    have hread := Timestamp.read_write t
    simpa [ofJson?, toJson, Json.ofString, readText] using hread

theorem toInt?_ofInt (value : Int) :
    JsonNumber.toInt? ⟨decide (value < 0), value.natAbs, none, none⟩ = some value := by
  unfold JsonNumber.toInt?
  by_cases h : value < 0
  · have hne : value.natAbs ≠ 0 := by omega
    have hneg : -(value.natAbs : Int) = value := by omega
    simp only [h, decide_true, if_true, if_neg hne, hneg]
  · have hpos : (value.natAbs : Int) = value := by omega
    simp only [h, decide_false, Bool.false_eq_true, if_false, hpos]

instance : LawfulCodec UserId where
  isWritable_toJson _ := rfl
  ofJson?_toJson user := by
    simp [ofJson?, toJson, Json.ofInt, readInt, toInt?_ofInt, user.contains_value, user.ofInt?_value]

instance : LawfulCodec Role where
  isWritable_toJson _ := rfl
  ofJson?_toJson role := by cases role <;> rfl

instance : LawfulCodec AccessToken where
  isWritable_toJson _ := rfl
  ofJson?_toJson _ := rfl

instance : LawfulCodec RefreshToken where
  isWritable_toJson _ := rfl
  ofJson?_toJson _ := rfl

theorem readNullable_toJson (time : Timestamp) :
    readNullable ofJson? (toJson time) = some (some time) := by
  have hread : (ofJson? (toJson time) : Option Timestamp) = some time := ofJson?_toJson time
  rw [readNullable, hread, Option.map_some]
  -- a time is written as a text and so is not the null
  intro h
  cases h

instance : LawfulCodec SecurityContext where
  isWritable_toJson _ := rfl
  ofJson?_toJson context := by
    rw [instCodecSecurityContext]
    dsimp only
    rw [fields_ofMembers]
    case hnames => rfl
    case hdistinct => decide
    simp only [Option.bind_eq_bind, Option.bind_some, Fields.required, Fields.get?, List.lookup_cons,
      String.reduceBEq, ofJson?_toJson]

instance : LawfulCodec (StatusOver Timestamp) where
  isWritable_toJson status := by cases status <;> rfl
  ofJson?_toJson status := by
    cases status with
    | active => rfl
    | revoked time =>
        have hread : (ofJson? (toJson time) : Option Timestamp) = some time := ofJson?_toJson time
        rw [instCodecStatusOverTimestamp]
        simp only [Json.ofMembers, List.map_cons, List.map_nil, hread, Option.map_some]

instance : LawfulCodec (ClaimsOver Timestamp) where
  isWritable_toJson _ := rfl
  ofJson?_toJson claims := by
    rw [instCodecClaimsOverTimestamp]
    dsimp only
    rw [fields_ofMembers]
    case hnames => rfl
    case hdistinct => decide
    simp only [Option.bind_eq_bind, Option.bind_some, Fields.required, Fields.get?, List.lookup_cons,
      String.reduceBEq, ofJson?_toJson]

instance : LawfulCodec (TokenPairOver Timestamp) where
  isWritable_toJson _ := rfl
  ofJson?_toJson pair := by
    rw [instCodecTokenPairOverTimestamp]
    dsimp only
    rw [fields_ofMembers]
    case hnames => rfl
    case hdistinct => decide
    simp only [Option.bind_eq_bind, Option.bind_some, Fields.required, Fields.get?, List.lookup_cons,
      String.reduceBEq, ofJson?_toJson]

instance : LawfulCodec (RecordOver Timestamp) where
  isWritable_toJson record := by
    obtain ⟨token, user, role, issuedAt, expiresAt, _ | revokedAt⟩ := record <;> rfl
  ofJson?_toJson record := by
    obtain ⟨token, user, role, issuedAt, expiresAt, revokedAt⟩ := record
    rw [instCodecRecordOverTimestamp]
    dsimp only
    rw [fields_ofMembers]
    case hnames => rfl
    case hdistinct => decide
    -- a record that was not revoked is written with a null, which is read as no time
    cases revokedAt with
    | none =>
        simp only [Option.bind_eq_bind, Option.bind_some, Fields.required, Fields.nullable,
          Fields.get?, List.lookup_cons, String.reduceBEq, ofJson?_toJson, readNullable]
    | some time =>
        simp only [Option.bind_eq_bind, Option.bind_some, Fields.required, Fields.nullable,
          Fields.get?, List.lookup_cons, String.reduceBEq, ofJson?_toJson, readNullable_toJson]

/-! ## Canonical forms -/

theorem read?_write [Codec α] [LawfulCodec α] (value : α) : read? α (write value) = some value := by
  rw [read?, write, String.toList_ofList, parse_render (isWritable_toJson value), Option.bind_some,
    ofJson?_toJson]

/-- What the value of an accepted text is written as. -/
def canonical? (α : Type) [Codec α] (text : String) : Option String := (read? α text).map write

/-- A codec by which values survive being written, and texts being read and written reach at once a
form that does not change any more. -/
structure RoundTrips (α : Type) [Codec α] : Prop where
  read_write : ∀ value : α, read? α (write value) = some value
  canonical_stays : ∀ text canonical : String, canonical? α text = some canonical →
    read? α canonical = read? α text ∧ canonical? α canonical = some canonical

theorem lawful_roundTrips [Codec α] [LawfulCodec α] : RoundTrips α where
  read_write := read?_write
  canonical_stays text canonical h := by
    rw [canonical?, Option.map_eq_some_iff] at h
    obtain ⟨value, hread, rfl⟩ := h
    rw [canonical?, read?_write, hread]
    exact ⟨rfl, rfl⟩

/-- The domain types are written and read without loss, over all timestamps and so over all
instants. -/
theorem domain_roundTrips :
    RoundTrips (ClaimsOver Timestamp) ∧ RoundTrips (RecordOver Timestamp) ∧
      RoundTrips (TokenPairOver Timestamp) ∧ RoundTrips SecurityContext ∧
        RoundTrips (StatusOver Timestamp) ∧ RoundTrips Role ∧ RoundTrips UserId ∧
          RoundTrips AccessToken ∧ RoundTrips RefreshToken ∧
            ∀ t : Instant, (Timestamp.ofInstant t).toInstant? = some t :=
  ⟨lawful_roundTrips, lawful_roundTrips, lawful_roundTrips, lawful_roundTrips, lawful_roundTrips,
    lawful_roundTrips, lawful_roundTrips, lawful_roundTrips, lawful_roundTrips,
    Timestamp.toInstant?_ofInstant⟩

end Wire

end SessionTokens
