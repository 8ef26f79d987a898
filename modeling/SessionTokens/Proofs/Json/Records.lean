import Mathlib.Data.List.Nodup
import SessionTokens.Json.Fields

/-! # The fields of a record

A field is found exactly when its name occurs once among the names of the object. Members of other
names may occur in any number, but every name has to be a text. In an array it is the place of a
value that tells which field it is of.
-/

namespace SessionTokens.Json

/-- A name occurs exactly once among members, with a value. -/
def OccursOnce (members : List (String × Json)) (name : String) (value : Json) : Prop :=
  members.filter (fun member => member.1 == name) = [(name, value)]

/-- A name does not occur among members. -/
def Absent (members : List (String × Json)) (name : String) : Prop :=
  ∀ member ∈ members, member.1 ≠ name

/-- A member has to be there, with a value for which a condition holds. -/
def MustOccur (members : List (String × Json)) (name : String) (p : Json → Prop) : Prop :=
  ∃ value, OccursOnce members name value ∧ p value

/-- A member may be missing or null. If it is neither, a condition has to hold for its value. -/
def MayOccur (members : List (String × Json)) (name : String) (p : Json → Prop) : Prop :=
  Absent members name ∨ MustOccur members name fun value => value = .null ∨ p value

theorem memberNames_isSome_iff {members : List (JsonText × Json)} :
    (memberNames members).isSome ↔
      ∃ named : List (String × Json),
        members = named.map fun (name, value) => (.text name, value) := by
  induction members with
  | nil => exact ⟨fun _ => ⟨[], rfl⟩, fun _ => rfl⟩
  | cons member rest ih =>
      obtain ⟨name, value⟩ := member
      cases name with
      | text name =>
          rw [memberNames, Option.isSome_map, ih]
          constructor
          · rintro ⟨named, rfl⟩
            exact ⟨(name, value) :: named, rfl⟩
          · rintro ⟨named, heq⟩
            cases named with
            | nil => cases heq
            | cons head named => exact ⟨named, (List.cons.inj heq).2⟩
      | unpairedSurrogate =>
          constructor
          · intro h
            cases h
          · rintro ⟨_ | ⟨head, named⟩, heq⟩ <;> cases heq
      | notUtf8 =>
          constructor
          · intro h
            cases h
          · rintro ⟨_ | ⟨head, named⟩, heq⟩ <;> cases heq

theorem knownMembers_ofMembers (names : List String) (named : List (String × Json)) :
    knownMembers names (named.map fun (name, value) => (.text name, value)) =
      named.filter fun member => names.contains member.1 := by
  induction named with
  | nil => rfl
  | cons member named ih =>
      rw [knownMembers] at ih ⊢
      rw [List.map_cons, List.filterMap_cons, List.filter_cons, ih]
      cases h : names.contains member.1 with
      | true => simp only [h, if_true]
      | false => simp only [h, Bool.false_eq_true, if_false]

/-- Keeping the members of some names keeps all those of one of the names. -/
theorem filter_filter_name {q : String → Bool} {name : String} (h : q name = true)
    (named : List (String × Json)) :
    (named.filter fun member => q member.1).filter (fun member => member.1 == name) =
      named.filter fun member => member.1 == name := by
  rw [List.filter_filter]
  apply List.filter_congr
  intro member _
  by_cases heq : member.1 = name
  · simp [heq, h]
  · simp [heq]

theorem filter_known {names : List String} {name : String} (h : name ∈ names)
    (named : List (String × Json)) :
    (named.filter fun member => names.contains member.1).filter (fun member => member.1 == name) =
      named.filter fun member => member.1 == name :=
  filter_filter_name (List.contains_iff_mem.mpr h) named

theorem mustOccur_filter_iff {q : String → Bool} {name : String} {p : Json → Prop}
    {members : List (String × Json)} (h : q name = true) :
    MustOccur (members.filter fun member => q member.1) name p ↔ MustOccur members name p := by
  simp only [MustOccur, OccursOnce, filter_filter_name h]

/-- The fields among members, none of the fields being repeated. -/
structure HasFields (names : List String) (named : List (String × Json)) (f : Fields) : Prop where
  once : ∀ name ∈ names, (named.filter fun member => member.1 == name).length ≤ 1
  found : f.found = named.filter fun member => names.contains member.1

theorem objectFields_eq_some_iff {names : List String} {members : List (JsonText × Json)}
    {f : Fields} :
    objectFields names members = some f ↔
      ∃ named : List (String × Json),
        Json.object members = .ofMembers named ∧ HasFields names named f ∧
          f.positional = false := by
  constructor
  · intro h
    unfold objectFields at h
    split at h
    next => cases h
    next found hnames =>
      obtain ⟨named, rfl⟩ := memberNames_isSome_iff.mp (by rw [hnames]; rfl)
      simp only [knownMembers_ofMembers] at h
      split at h
      next honce =>
        cases h
        refine ⟨named, rfl, ⟨?_, rfl⟩, rfl⟩
        intro name hname
        have hle := decide_eq_true_eq.mp (List.all_eq_true.mp honce name hname)
        rwa [filter_known hname] at hle
      next => cases h
  · rintro ⟨named, heq, ⟨honce, hfound⟩, hpositional⟩
    cases heq
    unfold objectFields
    split
    next hnone =>
      have hsome := memberNames_isSome_iff.mpr ⟨named, rfl⟩
      rw [hnone] at hsome
      cases hsome
    next =>
      rw [knownMembers_ofMembers, if_pos, ← hfound, ← hpositional]
      rw [List.all_eq_true]
      intro name hname
      rw [filter_known hname]
      exact decide_eq_true (honce name hname)

theorem ofMembers_inj {members others : List (String × Json)} :
    ofMembers members = ofMembers others ↔ members = others := by
  unfold ofMembers
  rw [object.injEq]
  refine List.map_inj_right fun member other heq => ?_
  obtain ⟨hname, hvalue⟩ := Prod.mk.inj heq
  exact Prod.ext (JsonText.text.inj hname) hvalue

theorem objectFields_ofMembers_eq_some_iff {names : List String} {members : List (String × Json)}
    {f : Fields} :
    objectFields names (members.map fun (name, value) => (.text name, value)) = some f ↔
      HasFields names members f ∧ f.positional = false := by
  rw [objectFields_eq_some_iff]
  constructor
  · rintro ⟨named, heq, hf⟩
    rwa [ofMembers_inj.mp heq]
  · exact fun hf => ⟨members, rfl, hf⟩

/-- Members of which none is repeated among the names have fields. -/
theorem exists_hasFields {names : List String} {members : List (String × Json)}
    (honce : ∀ name ∈ names, (members.filter fun member => member.1 == name).length ≤ 1)
    (positional : Bool) : ∃ f, HasFields names members f ∧ f.positional = positional :=
  ⟨⟨positional, members.filter fun member => names.contains member.1⟩, ⟨honce, rfl⟩, rfl⟩

/-- An object is accepted by its fields exactly if it is accepted by its members, where the members
that are accepted repeat no field. -/
theorem exists_objectFields_iff {names : List String} {members : List (String × Json)}
    {p : Fields → Prop} {q : Prop}
    (haccepts : ∀ f, HasFields names members f → f.positional = false → (p f ↔ q))
    (honce : q → ∀ name ∈ names, (members.filter fun member => member.1 == name).length ≤ 1) :
    (∃ f, objectFields names (members.map fun (name, value) => (.text name, value)) = some f ∧
      p f) ↔ q := by
  simp only [objectFields_ofMembers_eq_some_iff]
  constructor
  · rintro ⟨f, ⟨hf, hpositional⟩, haccepted⟩
    exact (haccepts f hf hpositional).mp haccepted
  · intro haccepted
    obtain ⟨f, hf, hpositional⟩ := exists_hasFields (honce haccepted) false
    exact ⟨f, ⟨hf, hpositional⟩, (haccepts f hf hpositional).mpr haccepted⟩

theorem lookup_eq_head?_filter (name : String) (named : List (String × Json)) :
    named.lookup name =
      ((named.filter fun member => member.1 == name).head?).map Prod.snd := by
  induction named with
  | nil => rfl
  | cons member named ih =>
      obtain ⟨key, value⟩ := member
      rw [List.lookup_cons, List.filter_cons]
      by_cases h : key = name
      · simp [h]
      · have hsymm : (name == key) = false := beq_eq_false_iff_ne.mpr (Ne.symm h)
        have hne : (key == name) = false := beq_eq_false_iff_ne.mpr h
        simp only [hsymm, hne, Bool.false_eq_true, if_false]
        exact ih

theorem readNullable_isSome_iff {reader : Reader α} {json : Json} :
    (readNullable reader json).isSome ↔ json = .null ∨ (reader json).isSome := by
  cases json <;> simp [readNullable]

namespace HasFields

variable {names : List String} {named : List (String × Json)} {f : Fields}

theorem get?_eq (h : HasFields names named f) {name : String} (hname : name ∈ names) :
    f.get? name = ((named.filter fun member => member.1 == name).head?).map Prod.snd := by
  rw [Fields.get?, h.found, lookup_eq_head?_filter, filter_known hname]

/-- A field is found with a value exactly when its name occurs once, with that value. -/
theorem get?_eq_some_iff (h : HasFields names named f) {name : String} (hname : name ∈ names)
    {value : Json} : f.get? name = some value ↔ OccursOnce named name value := by
  rw [h.get?_eq hname, OccursOnce]
  have honce := h.once name hname
  cases hfilter : named.filter fun member => member.1 == name with
  | nil => simp
  | cons member rest =>
      rw [hfilter] at honce
      have hrest : rest = [] := List.length_eq_zero_iff.mp (by simpa using honce)
      have hmember : member ∈ named.filter fun member => member.1 == name := by simp [hfilter]
      have hkey : member.1 = name := eq_of_beq (List.mem_filter.mp hmember).2
      subst hrest hkey
      simp [Prod.ext_iff]

theorem get?_eq_none_iff (h : HasFields names named f) {name : String} (hname : name ∈ names) :
    f.get? name = none ↔ Absent named name := by
  rw [h.get?_eq hname, Option.map_eq_none_iff, List.head?_eq_none_iff, List.filter_eq_nil_iff]
  simp [Absent]

theorem required_eq_some_iff (h : HasFields names named f) {name : String} (hname : name ∈ names)
    {reader : Reader α} {result : α} :
    f.required name reader = some result ↔
      ∃ value, OccursOnce named name value ∧ reader value = some result := by
  rw [Fields.required]
  constructor
  · intro hread
    split at hread
    next => cases hread
    next value hfound => exact ⟨value, (h.get?_eq_some_iff hname).mp hfound, hread⟩
  · rintro ⟨value, hvalue, hread⟩
    rw [(h.get?_eq_some_iff hname).mpr hvalue]
    exact hread

theorem required_isSome_iff (h : HasFields names named f) {name : String} (hname : name ∈ names)
    {reader : Reader α} {p : Json → Prop} (hreader : ∀ value, (reader value).isSome ↔ p value) :
    (f.required name reader).isSome ↔ MustOccur named name p := by
  simp only [Option.isSome_iff_exists, h.required_eq_some_iff hname, MustOccur, ← hreader]
  constructor
  · rintro ⟨result, value, honce, hread⟩
    exact ⟨value, honce, result, hread⟩
  · rintro ⟨value, honce, result, hread⟩
    exact ⟨result, value, honce, hread⟩

/-- A field that may be null may also be missing from an object, and among values in order that are
one for each field it is not missing. -/
theorem nullable_isSome_iff (h : HasFields names named f) {name : String} (hname : name ∈ names)
    (hpresent : f.positional = true → ¬ Absent named name) {reader : Reader α} {p : Json → Prop}
    (hreader : ∀ value, (reader value).isSome ↔ p value) :
    (f.nullable name reader).isSome ↔ MayOccur named name p := by
  unfold Fields.nullable
  cases hget : f.get? name with
  | none =>
      have habsent := (h.get?_eq_none_iff hname).mp hget
      have hobject : ¬ f.positional = true := fun hpositional => hpresent hpositional habsent
      simp only [if_neg hobject]
      exact iff_of_true rfl (.inl habsent)
  | some value =>
      have honce := (h.get?_eq_some_iff hname).mp hget
      simp only [readNullable_isSome_iff, hreader]
      constructor
      · exact fun hvalue => .inr ⟨value, honce, hvalue⟩
      · rintro (habsent | ⟨other, hother, hvalue⟩)
        · rw [(h.get?_eq_none_iff hname).mpr habsent] at hget
          cases hget
        · rw [(h.get?_eq_some_iff hname).mpr hother] at hget
          cases hget
          exact hvalue

theorem admits_iff (h : HasFields names named f)
    (hpresent : f.positional = true → ∀ name ∈ names, ¬ Absent named name)
    {optional : List (String × Reader Unit)} (hnames : ∀ field ∈ optional, field.1 ∈ names) :
    f.admits optional = true ↔
      ∀ field ∈ optional, MayOccur named field.1 fun value => (field.2 value).isSome := by
  rw [Fields.admits, List.all_eq_true]
  refine forall₂_congr fun field hfield => ?_
  have hname := hnames field hfield
  exact h.nullable_isSome_iff hname (fun hpositional => hpresent hpositional _ hname)
    fun _ => Iff.rfl

end HasFields

theorem OccursOnce.length_le {members : List (String × Json)} {name : String} {value : Json}
    (h : OccursOnce members name value) :
    (members.filter fun member => member.1 == name).length ≤ 1 := by
  rw [h]
  exact Nat.le_refl 1

theorem Absent.length_le {members : List (String × Json)} {name : String}
    (h : Absent members name) : (members.filter fun member => member.1 == name).length ≤ 1 := by
  have hnil : (members.filter fun member => member.1 == name) = [] := by
    rw [List.filter_eq_nil_iff]
    intro member hmember
    simpa using h member hmember
  rw [hnil]
  exact Nat.zero_le 1

theorem MustOccur.length_le {members : List (String × Json)} {name : String} {p : Json → Prop}
    (h : MustOccur members name p) :
    (members.filter fun member => member.1 == name).length ≤ 1 := by
  obtain ⟨value, honce, -⟩ := h
  exact honce.length_le

theorem MayOccur.length_le {members : List (String × Json)} {name : String} {p : Json → Prop}
    (h : MayOccur members name p) :
    (members.filter fun member => member.1 == name).length ≤ 1 := by
  rcases h with habsent | hoccurs
  · exact habsent.length_le
  · exact hoccurs.length_le

/-! ## Values in order -/

theorem positional_of_array {names : List String} {items : List Json} {f : Fields}
    (h : fields names (.array items) = some f) : f.positional = true := by
  rw [fields] at h
  split at h
  next => cases h; rfl
  next => cases h

theorem Fields.get?_isSome_of_required {f : Fields} {name : String} {reader : Reader α} {value : α}
    (h : f.required name reader = some value) : (f.get? name).isSome := by
  rw [required] at h
  split at h
  next => cases h
  next heq => rw [heq, Option.isSome_some]

/-- Values in order may not leave out what an object may. -/
theorem Fields.get?_isSome_of_admits {f : Fields} {optional : List (String × Reader Unit)}
    (hpositional : f.positional = true) (hadmits : f.admits optional = true)
    {field : String × Reader Unit} (hfield : field ∈ optional) : (f.get? field.1).isSome := by
  have hread := List.all_eq_true.mp hadmits field hfield
  simp only [nullable] at hread
  split at hread
  next => simp [hpositional] at hread
  next heq => rw [heq, Option.isSome_some]

/-- Values in order are one for each name if every name is found among them. -/
theorem exists_members_of_found {names : List String} {items : List Json} {f : Fields}
    (hnodup : names.Nodup) (hfields : fields names (.array items) = some f)
    (hfound : ∀ name ∈ names, (f.get? name).isSome) :
    ∃ members : List (String × Json), members.map Prod.fst = names ∧
      members.map Prod.snd = items ∧ f = ⟨true, members⟩ := by
  rw [fields] at hfields
  split at hfields
  next hshort =>
    cases hfields
    -- Were there fewer values than names, the last name would not be found.
    have hsubset : names ⊆ (names.zip items).map Prod.fst := by
      intro name hname
      obtain ⟨value, hvalue⟩ := Option.isSome_iff_exists.mp (hfound name hname)
      obtain ⟨before, after, hzip, -⟩ :
          ∃ before after, names.zip items = before ++ (name, value) :: after ∧ _ :=
        List.lookup_eq_some_iff.mp hvalue
      simp [hzip]
    have hlong := hnodup.length_le_of_subset hsubset
    rw [List.length_map, List.length_zip] at hlong
    have hlength : names.length ≤ items.length := Nat.le_trans hlong (Nat.min_le_right _ _)
    exact ⟨names.zip items, List.map_fst_zip hlength, List.map_snd_zip hshort, rfl⟩
  next => cases hfields

theorem fields_array_eq {names : List String} {members : List (String × Json)}
    (hnames : members.map Prod.fst = names) :
    fields names (.array (members.map Prod.snd)) = some ⟨true, members⟩ := by
  have hlength : (members.map Prod.snd).length ≤ names.length := by
    simp [← hnames]
  rw [fields, if_pos hlength, ← List.zip_of_prod hnames rfl]

theorem hasFields_of_names {names : List String} {members : List (String × Json)}
    (hnodup : names.Nodup) (hnames : members.map Prod.fst = names) :
    HasFields names members ⟨true, members⟩ where
  once name _ := by
    have hcount := List.nodup_iff_count_le_one.mp hnodup name
    rwa [← hnames, List.count, List.countP_map, List.countP_eq_length_filter] at hcount
  found := by
    refine (List.filter_eq_self.mpr fun member hmember => ?_).symm
    rw [List.contains_iff_mem, ← hnames]
    exact List.mem_map_of_mem hmember

theorem not_absent_of_names {names : List String} {members : List (String × Json)}
    (hnames : members.map Prod.fst = names) {name : String} (hname : name ∈ names) :
    ¬ Absent members name := by
  intro habsent
  rw [← hnames] at hname
  obtain ⟨member, hmember, heq⟩ := List.mem_map.mp hname
  exact habsent member hmember heq

end SessionTokens.Json
