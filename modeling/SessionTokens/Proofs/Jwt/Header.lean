import SessionTokens.Jwt.Header
import SessionTokens.Proofs.Json.Records

/-! # What the header of a signed token may say

A header names its algorithm once. What else it may hold is told member by member: texts, a list of
texts, and a key, which has to be complete for one of the known kinds of keys. Each of these may be
missing or null, and none may be repeated; members of other names may hold anything. Instead of an
object, a header may be the array of all its values in order.
-/

namespace SessionTokens

namespace Json

/-- A string that is a text. -/
def IsText (json : Json) : Prop := ∃ text, json = .ofString text

/-- An array of texts. -/
def AreTexts (json : Json) : Prop := ∃ texts : List String, json = .array (texts.map .ofString)

/-- A choice without contents: its name, or an object with a null under its name. -/
inductive Chooses : Json → String → Prop
  | name (name : String) : Chooses (.ofString name) name
  | null (name : String) : Chooses (.ofMembers [(name, .null)]) name

/-- A value that can be read in full, with at most a number of levels of nesting. -/
inductive ReadableWithin : Nat → Json → Prop
  | null : ReadableWithin depth .null
  | bool : ReadableWithin depth (.bool value)
  | number {n : JsonNumber} (hreal : n.toReal?.isSome) : ReadableWithin depth (.number n)
  | text : ReadableWithin depth (.string (.text content))
  | array {items : List Json} (hitems : ∀ item ∈ items, ReadableWithin depth item) :
      ReadableWithin (depth + 1) (.array items)
  | object {members : List (JsonText × Json)}
      (hnames : ∀ member ∈ members, member.1.isText = true)
      (hvalues : ∀ member ∈ members, ReadableWithin depth member.2) :
      ReadableWithin (depth + 1) (.object members)

end Json

namespace Jwt

open Json

/-- An algorithm that a key is for. It may also be chosen by an object with an empty object under its
name. -/
inductive IsKeyAlgorithm : Json → Prop
  | chosen (hknown : name ∈ ["HS256", "HS384", "HS512", "ES256", "ES384", "RS256", "RS384", "RS512",
      "PS256", "PS384", "PS512", "EdDSA", "RSA1_5", "RSA-OAEP", "RSA-OAEP-256"])
      (hchoice : Chooses json name ∨ json = .ofMembers [(name, .object [])]) : IsKeyAlgorithm json

/-- A curve of a key. -/
def IsCurve (json : Json) : Prop :=
  ∃ name ∈ ["P-256", "P-384", "P-521", "Ed25519"], Chooses json name

/-- The kinds of keys: what each of them must have. -/
inductive IsOfKind (members : List (String × Json)) : Prop
  | ellipticCurve (hkind : MustOccur members "kty" (Chooses · "EC"))
      (hcurve : MustOccur members "crv" IsCurve) (hx : MustOccur members "x" IsText)
      (hy : MustOccur members "y" IsText)
  | rsa (hkind : MustOccur members "kty" (Chooses · "RSA")) (hn : MustOccur members "n" IsText)
      (he : MustOccur members "e" IsText)
  | octets (hkind : MustOccur members "kty" (Chooses · "oct"))
      (hk : MustOccur members "k" IsText)
  | octetPair (hkind : MustOccur members "kty" (Chooses · "OKP"))
      (hcurve : MustOccur members "crv" IsCurve) (hx : MustOccur members "x" IsText)

/-- The members of a key that a header embeds. All of the key is read, whatever its names are. -/
structure KeyMembers (members : List (String × Json)) : Prop where
  texts : ∀ name ∈ ["use", "kid", "x5u", "x5t", "x5t#S256"], MayOccur members name IsText
  lists : ∀ name ∈ ["key_ops", "x5c"], MayOccur members name AreTexts
  algorithm : MayOccur members "alg" IsKeyAlgorithm
  kind : IsOfKind members
  readable : ReadableWithin 126 (.ofMembers members)

/-- A key that a header may embed. -/
def IsKey (json : Json) : Prop := ∃ members, json = .ofMembers members ∧ KeyMembers members

/-- The members of a header for an algorithm. -/
structure HeaderMembers (algorithm : String) (members : List (String × Json)) : Prop where
  algorithm : MustOccur members "alg" (Chooses · algorithm)
  texts : ∀ name ∈ ["typ", "cty", "jku", "kid", "x5u", "x5t", "x5t#S256"],
    MayOccur members name IsText
  chain : MayOccur members "x5c" AreTexts
  key : MayOccur members "jwk" IsKey

/-- A header for an algorithm: an object with its members, or all their values in order. -/
inductive IsHeaderFor (algorithm : String) : Json → Prop
  | object (hmembers : HeaderMembers algorithm members) :
      IsHeaderFor algorithm (.ofMembers members)
  | array
      (hnames : members.map Prod.fst =
        ["typ", "alg", "cty", "jku", "jwk", "kid", "x5u", "x5c", "x5t", "x5t#S256"])
      (hmembers : HeaderMembers algorithm members) :
      IsHeaderFor algorithm (.array (members.map Prod.snd))

end Jwt

namespace Json

/-! ## Reading single values -/

theorem readText_eq_some_iff {json : Json} {text : String} :
    readText json = some text ↔ json = .ofString text := by
  constructor
  · intro h
    unfold readText at h
    split at h
    next content => cases h; rfl
    next => cases h
  · rintro rfl
    rfl

theorem readText_isSome_iff (json : Json) : (readText json).isSome ↔ IsText json := by
  simp only [Option.isSome_iff_exists, readText_eq_some_iff, IsText]

theorem readItems_isSome_iff {items : List Json} :
    (readItems readText items).isSome ↔ ∃ texts : List String, items = texts.map .ofString := by
  induction items with
  | nil => exact iff_of_true rfl ⟨[], rfl⟩
  | cons item rest ih =>
      constructor
      · intro h
        simp only [readItems, Option.bind_eq_bind, Option.isSome_iff_exists,
          Option.bind_eq_some_iff] at h
        obtain ⟨-, text, htext, texts, htexts, -⟩ := h
        obtain ⟨texts, rfl⟩ := ih.mp (Option.isSome_iff_exists.mpr ⟨_, htexts⟩)
        exact ⟨text :: texts, by rw [readText_eq_some_iff.mp htext, List.map_cons]⟩
      · rintro ⟨_ | ⟨text, texts⟩, heq⟩
        · cases heq
        · obtain ⟨rfl, hrest⟩ := List.cons.inj heq
          obtain ⟨values, hvalues⟩ := Option.isSome_iff_exists.mp (ih.mpr ⟨texts, hrest⟩)
          have hread : readText (.ofString text) = some text := rfl
          simp [readItems, hread, hvalues]

theorem readTexts_isSome_iff (json : Json) : (readArray readText json).isSome ↔ AreTexts json := by
  cases json with
  | array items => simp only [readArray, readItems_isSome_iff, AreTexts, Json.array.injEq]
  | null | bool | number | string | object => simp [readArray, AreTexts]

theorem readUnitName_eq_some_iff {json : Json} {name : String} :
    readUnitName json = some name ↔ Chooses json name := by
  constructor
  · intro h
    unfold readUnitName at h
    split at h
    next => cases h; exact .name name
    next => cases h; exact .null name
    next => cases h
  · rintro (_ | _) <;> rfl

mutual

theorem isReadable_iff : ∀ (json : Json) (depth : Nat),
    json.isReadable depth = true ↔ ReadableWithin depth json
  | .null, _ => iff_of_true rfl .null
  | .bool _, _ => iff_of_true rfl .bool
  | .number _, _ => ⟨fun h => .number h, fun | .number h => h⟩
  | .string (.text _), _ => iff_of_true rfl .text
  | .string (.unpairedSurrogate _), _ => iff_of_false nofun nofun
  | .string .notUtf8, _ => iff_of_false nofun nofun
  | .array _, 0 => iff_of_false nofun nofun
  | .array items, depth + 1 =>
      ⟨fun h => .array ((areReadable_iff items depth).mp h),
        fun | .array h => (areReadable_iff items depth).mpr h⟩
  | .object _, 0 => iff_of_false nofun nofun
  | .object members, depth + 1 =>
      ⟨fun h => .object ((areMembersReadable_iff members depth).mp h).1
          ((areMembersReadable_iff members depth).mp h).2,
        fun | .object hnames hvalues => (areMembersReadable_iff members depth).mpr ⟨hnames, hvalues⟩⟩

theorem areReadable_iff : ∀ (items : List Json) (depth : Nat),
    areReadable depth items = true ↔ ∀ item ∈ items, ReadableWithin depth item
  | [], _ => iff_of_true rfl (List.forall_mem_nil _)
  | item :: rest, depth => by
      rw [areReadable, Bool.and_eq_true, isReadable_iff item depth, areReadable_iff rest depth,
        List.forall_mem_cons]

theorem areMembersReadable_iff : ∀ (members : List (JsonText × Json)) (depth : Nat),
    areMembersReadable depth members = true ↔
      (∀ member ∈ members, member.1.isText = true) ∧
        ∀ member ∈ members, ReadableWithin depth member.2
  | [], _ => iff_of_true rfl ⟨List.forall_mem_nil _, List.forall_mem_nil _⟩
  | (name, value) :: rest, depth => by
      rw [areMembersReadable, Bool.and_eq_true, Bool.and_eq_true, isReadable_iff value depth,
        areMembersReadable_iff rest depth, List.forall_mem_cons, List.forall_mem_cons]
      exact and_and_and_comm

end

end Json

namespace Jwt

open Json

/-! ## Keys -/

theorem skipText_isSome_iff (json : Json) : (skipText json).isSome ↔ IsText json := by
  rw [skipText, Option.isSome_map, readText_isSome_iff]

theorem skipTexts_isSome_iff (json : Json) : (skipTexts json).isSome ↔ AreTexts json := by
  rw [skipTexts, Option.isSome_map, readTexts_isSome_iff]

theorem readKeyAlgorithm_isSome_iff (json : Json) :
    (readKeyAlgorithm json).isSome ↔ IsKeyAlgorithm json := by
  have hname {name : String} : readHollowName json = some name ↔
      Chooses json name ∨ json = .ofMembers [(name, .object [])] := by
    unfold readHollowName
    split
    next found =>
      constructor
      · intro h
        cases h
        exact .inr rfl
      · rintro (h | h)
        · cases h
        · cases h
          rfl
    next hne =>
      rw [readUnitName_eq_some_iff]
      refine ⟨.inl, fun h => h.resolve_right fun heq => hne name heq⟩
  rw [readKeyAlgorithm, Option.isSome_bind, Option.any_eq_true]
  constructor
  · rintro ⟨name, hread, hknown⟩
    split at hknown
    next hmem => exact .chosen (List.contains_iff_mem.mp hmem) (hname.mp hread)
    next => cases hknown
  · rintro ⟨hknown, hchoice⟩
    refine ⟨_, hname.mpr hchoice, ?_⟩
    have hmem : keyAlgorithms.contains _ = true := List.contains_iff_mem.mpr hknown
    rw [if_pos hmem]
    rfl

theorem readCurve_isSome_iff (json : Json) : (readCurve json).isSome ↔ IsCurve json := by
  rw [readCurve, Option.isSome_bind, Option.any_eq_true]
  constructor
  · rintro ⟨name, hread, hknown⟩
    split at hknown
    next hmem =>
      exact ⟨name, List.contains_iff_mem.mp hmem, readUnitName_eq_some_iff.mp hread⟩
    next => cases hknown
  · rintro ⟨name, hknown, hchoice⟩
    refine ⟨name, readUnitName_eq_some_iff.mpr hchoice, ?_⟩
    rw [if_pos (List.contains_iff_mem.mpr hknown)]
    rfl

section Members

variable {members : List (String × Json)}

/-- An object is read as a key of a kind exactly if it has the members of that kind. -/
theorem isKeyOfKind_iff {kind : String} {required : List (String × Reader Unit)} :
    isKeyOfKind (members.map fun (name, value) => (.text name, value)) kind required = true ↔
      MustOccur members "kty" (Chooses · kind) ∧
        ∀ field ∈ required, MustOccur members field.1 fun value => (field.2 value).isSome := by
  rw [isKeyOfKind, Option.any_eq_true]
  refine exists_objectFields_iff (fun f hf _ => ?_) ?_
  · rw [Bool.and_eq_true, beq_iff_eq, List.all_eq_true, hf.required_eq_some_iff List.mem_cons_self]
    simp only [readUnitName_eq_some_iff]
    refine and_congr Iff.rfl (forall₂_congr fun field hfield => ?_)
    exact hf.required_isSome_iff (List.mem_cons_of_mem _ (List.mem_map_of_mem hfield))
      fun _ => Iff.rfl
  · rintro ⟨hkind, hrequired⟩ name hname
    rcases List.mem_cons.mp hname with rfl | hname
    · exact hkind.length_le
    · obtain ⟨field, hfield, rfl⟩ := List.mem_map.mp hname
      exact (hrequired field hfield).length_le

theorem hasOptional_iff {optional : List (String × Reader Unit)} :
    hasOptional optional (members.map fun (name, value) => (.text name, value)) = true ↔
      ∀ field ∈ optional, MayOccur members field.1 fun value => (field.2 value).isSome := by
  rw [hasOptional, Option.any_eq_true]
  refine exists_objectFields_iff (fun f hf hpositional => ?_) fun hoptional name hname => ?_
  · exact hf.admits_iff (by simp [hpositional]) fun field hfield => List.mem_map_of_mem hfield
  · obtain ⟨field, hfield, rfl⟩ := List.mem_map.mp hname
    exact (hoptional field hfield).length_le

theorem commonKeyFields_iff :
    (∀ field ∈ commonKeyFields, MayOccur members field.1 fun value => (field.2 value).isSome) ↔
      (∀ name ∈ ["use", "kid", "x5u", "x5t", "x5t#S256"], MayOccur members name IsText) ∧
        (∀ name ∈ ["key_ops", "x5c"], MayOccur members name AreTexts) ∧
          MayOccur members "alg" IsKeyAlgorithm := by
  simp only [commonKeyFields, List.forall_mem_cons, List.not_mem_nil, false_implies, implies_true,
    and_true, skipText_isSome_iff, skipTexts_isSome_iff, readKeyAlgorithm_isSome_iff]
  constructor
  · rintro ⟨huse, hops, halg, hkid, hx5u, hx5c, hx5t, hsha⟩
    exact ⟨⟨huse, hkid, hx5u, hx5t, hsha⟩, ⟨hops, hx5c⟩, halg⟩
  · rintro ⟨⟨huse, hkid, hx5u, hx5t, hsha⟩, ⟨hops, hx5c⟩, halg⟩
    exact ⟨huse, hops, halg, hkid, hx5u, hx5c, hx5t, hsha⟩

theorem specialMembers_ofMembers :
    specialMembers (members.map fun (name, value) => (.text name, value)) =
      (members.filter fun member => isSpecial member.1).map fun (name, value) =>
        (.text name, value) :=
  List.filter_map

/-- The members that are no common fields are those that the kinds of keys are told by. -/
theorem isKeyOfSomeKind_iff :
    isKeyOfSomeKind (specialMembers (members.map fun (name, value) => (.text name, value))) = true ↔
      IsOfKind members := by
  have hnames : ∀ name ∈ ["kty", "crv", "x", "y", "n", "e", "k"], isSpecial name = true := by
    decide
  simp only [List.forall_mem_cons, List.not_mem_nil, false_implies, implies_true, and_true]
    at hnames
  obtain ⟨hkty, hcrv, hx, hy, hn, he, hk⟩ := hnames
  rw [specialMembers_ofMembers]
  simp only [isKeyOfSomeKind, keyKinds, List.any_cons, List.any_nil, Bool.or_eq_true,
    Bool.false_eq_true, or_false, isKeyOfKind_iff, List.forall_mem_cons, List.not_mem_nil,
    false_implies, implies_true, and_true, skipText_isSome_iff, readCurve_isSome_iff,
    mustOccur_filter_iff, hkty, hcrv, hx, hy, hn, he, hk]
  constructor
  · rintro (⟨hkind, hcurve, hx, hy⟩ | ⟨hkind, hn, he⟩ | ⟨hkind, hk⟩ | ⟨hkind, hcurve, hx⟩)
    · exact .ellipticCurve hkind hcurve hx hy
    · exact .rsa hkind hn he
    · exact .octets hkind hk
    · exact .octetPair hkind hcurve hx
  · rintro (⟨hkind, hcurve, hx, hy⟩ | ⟨hkind, hn, he⟩ | ⟨hkind, hk⟩ | ⟨hkind, hcurve, hx⟩)
    · exact .inl ⟨hkind, hcurve, hx, hy⟩
    · exact .inr (.inl ⟨hkind, hn, he⟩)
    · exact .inr (.inr (.inl ⟨hkind, hk⟩))
    · exact .inr (.inr (.inr ⟨hkind, hcurve, hx⟩))

theorem readKey_ofMembers_isSome_iff :
    (readKey (.ofMembers members)).isSome ↔ KeyMembers members := by
  simp only [readKey, Json.ofMembers, Option.isSome_ite, Bool.and_eq_true, isReadable_iff,
    hasOptional_iff, commonKeyFields_iff, isKeyOfSomeKind_iff]
  constructor
  · rintro ⟨⟨hreadable, htexts, hlists, halgorithm⟩, hkind⟩
    exact ⟨htexts, hlists, halgorithm, hkind, hreadable⟩
  · rintro ⟨htexts, hlists, halgorithm, hkind, hreadable⟩
    exact ⟨⟨hreadable, htexts, hlists, halgorithm⟩, hkind⟩

end Members

/-- Every name has to be a text already for the optional fields to be read. -/
theorem readKey_isSome_iff (json : Json) : (readKey json).isSome ↔ IsKey json := by
  constructor
  · intro h
    cases json with
    | object members =>
        have hread := h
        simp only [readKey, Option.isSome_ite, Bool.and_eq_true] at hread
        obtain ⟨⟨-, hoptional⟩, -⟩ := hread
        obtain ⟨f, hfields, -⟩ := (Option.any_eq_true _ _).mp hoptional
        obtain ⟨named, heq, -⟩ := objectFields_eq_some_iff.mp hfields
        rw [heq] at h ⊢
        exact ⟨named, rfl, readKey_ofMembers_isSome_iff.mp h⟩
    | null | bool | number | string | array => cases h
  · rintro ⟨members, rfl, hkey⟩
    exact readKey_ofMembers_isSome_iff.mpr hkey

/-! ## Headers -/

theorem Algorithm.ofName?_eq_some_iff {name : String} {algorithm : Algorithm} :
    ofName? name = some algorithm ↔ name = algorithm.name := by
  constructor
  · intro h
    rw [ofName?, List.find?_eq_some_iff_append] at h
    exact (eq_of_beq h.1).symm
  · rintro rfl
    cases algorithm <;> decide

theorem readAlgorithm_eq_some_iff {json : Json} {algorithm : Algorithm} :
    readUnit Algorithm.ofName? json = some algorithm ↔ Chooses json algorithm.name := by
  rw [← readUnitName_eq_some_iff, readUnit]
  cases readUnitName json with
  | none => exact iff_of_false nofun nofun
  | some name =>
      simp only [Algorithm.ofName?_eq_some_iff, Option.some.injEq]

theorem headerFields_iff {members : List (String × Json)} :
    (∀ field ∈ headerFields, MayOccur members field.1 fun value => (field.2 value).isSome) ↔
      (∀ name ∈ ["typ", "cty", "jku", "kid", "x5u", "x5t", "x5t#S256"],
        MayOccur members name IsText) ∧
        MayOccur members "x5c" AreTexts ∧ MayOccur members "jwk" IsKey := by
  simp only [headerFields, List.forall_mem_cons, List.not_mem_nil, false_implies, implies_true,
    and_true, skipText_isSome_iff, skipTexts_isSome_iff, readKey_isSome_iff]
  constructor
  · rintro ⟨htyp, hcty, hjku, hjwk, hkid, hx5u, hx5c, hx5t, hsha⟩
    exact ⟨⟨htyp, hcty, hjku, hkid, hx5u, hx5t, hsha⟩, hx5c, hjwk⟩
  · rintro ⟨⟨htyp, hcty, hjku, hkid, hx5u, hx5t, hsha⟩, hx5c, hjwk⟩
    exact ⟨htyp, hcty, hjku, hjwk, hkid, hx5u, hx5c, hx5t, hsha⟩

/-- What is read of a header's fields, whether they were found by name or in order. -/
theorem headerMembers_iff {members : List (String × Json)} {f : Fields} {algorithm : Algorithm}
    (hf : HasFields headerNames members f)
    (hpresent : f.positional = true → ∀ name ∈ headerNames, ¬ Absent members name) :
    f.required "alg" (readUnit Algorithm.ofName?) = some algorithm ∧
      f.admits headerFields = true ↔ HeaderMembers algorithm.name members := by
  rw [hf.admits_iff hpresent (by decide), headerFields_iff, hf.required_eq_some_iff (by decide)]
  simp only [readAlgorithm_eq_some_iff]
  constructor
  · rintro ⟨halgorithm, htexts, hchain, hkey⟩
    exact ⟨halgorithm, htexts, hchain, hkey⟩
  · rintro ⟨halgorithm, htexts, hchain, hkey⟩
    exact ⟨halgorithm, htexts, hchain, hkey⟩

theorem readHeader_eq_some_iff_fields {json : Json} {algorithm : Algorithm} :
    readHeader json = some algorithm ↔
      ∃ f, fields headerNames json = some f ∧
        f.required "alg" (readUnit Algorithm.ofName?) = some algorithm ∧
          f.admits headerFields = true := by
  simp only [readHeader, Option.bind_eq_bind, Option.bind_eq_some_iff]
  constructor
  · rintro ⟨f, hfields, found, hfound, h⟩
    split at h
    next hadmits =>
      cases h
      exact ⟨f, hfields, hfound, hadmits⟩
    next => cases h
  · rintro ⟨f, hfields, hfound, hadmits⟩
    exact ⟨f, hfields, algorithm, hfound, if_pos hadmits⟩

theorem HeaderMembers.length_le {algorithm : String} {members : List (String × Json)}
    (h : HeaderMembers algorithm members) :
    ∀ name ∈ headerNames, (members.filter fun member => member.1 == name).length ≤ 1 := by
  have hnames : ∀ name ∈ headerNames, name = "alg" ∨ name = "x5c" ∨ name = "jwk" ∨
      name ∈ ["typ", "cty", "jku", "kid", "x5u", "x5t", "x5t#S256"] := by
    decide
  intro name hname
  rcases hnames name hname with rfl | rfl | rfl | htext
  · exact h.algorithm.length_le
  · exact h.chain.length_le
  · exact h.key.length_le
  · exact (h.texts name htext).length_le

theorem readHeader_ofMembers_eq_some_iff {members : List (String × Json)} {algorithm : Algorithm} :
    readHeader (.ofMembers members) = some algorithm ↔ HeaderMembers algorithm.name members :=
  readHeader_eq_some_iff_fields.trans <| exists_objectFields_iff
    (fun _ hf hpositional => headerMembers_iff hf (by simp [hpositional])) HeaderMembers.length_le

/-- Among values in order, every field is found that is required or admitted. -/
theorem readHeader_array_eq_some_iff {items : List Json} {algorithm : Algorithm} :
    readHeader (.array items) = some algorithm ↔
      ∃ members : List (String × Json), members.map Prod.fst = headerNames ∧
        items = members.map Prod.snd ∧ HeaderMembers algorithm.name members := by
  have hmembers {members : List (String × Json)} (hnames : members.map Prod.fst = headerNames) :=
    @headerMembers_iff _ _ algorithm (hasFields_of_names (by decide) hnames)
      fun _ _ => not_absent_of_names hnames
  rw [readHeader_eq_some_iff_fields]
  constructor
  · rintro ⟨f, hfields, hread⟩
    have hnamed : ∀ name ∈ headerNames, name = "alg" ∨ name ∈ headerFields.map (·.1) := by
      decide
    have hfound : ∀ name ∈ headerNames, (f.get? name).isSome := by
      intro name hname
      rcases hnamed name hname with rfl | hname
      · exact Fields.get?_isSome_of_required hread.1
      · obtain ⟨field, hfield, rfl⟩ := List.mem_map.mp hname
        exact Fields.get?_isSome_of_admits (positional_of_array hfields) hread.2 hfield
    obtain ⟨members, hnames, rfl, rfl⟩ := exists_members_of_found (by decide) hfields hfound
    exact ⟨members, hnames, rfl, (hmembers hnames).mp hread⟩
  · rintro ⟨members, hnames, rfl, hheader⟩
    exact ⟨_, fields_array_eq hnames, (hmembers hnames).mpr hheader⟩

/-- A header is read exactly when it is one for an algorithm, and as one for that algorithm. -/
theorem readHeader_eq_some_iff {json : Json} {algorithm : Algorithm} :
    readHeader json = some algorithm ↔ IsHeaderFor algorithm.name json := by
  constructor
  · intro h
    cases json with
    | object members =>
        obtain ⟨f, hfields, -⟩ := readHeader_eq_some_iff_fields.mp h
        obtain ⟨named, heq, -⟩ := objectFields_eq_some_iff.mp hfields
        rw [heq] at h ⊢
        exact .object (readHeader_ofMembers_eq_some_iff.mp h)
    | array items =>
        obtain ⟨members, hnames, rfl, hmembers⟩ := readHeader_array_eq_some_iff.mp h
        exact .array hnames hmembers
    | null | bool | number | string => cases h
  · rintro (hmembers | ⟨hnames, hmembers⟩)
    · exact readHeader_ofMembers_eq_some_iff.mpr hmembers
    · exact readHeader_array_eq_some_iff.mpr ⟨_, hnames, rfl, hmembers⟩

/-- What claims not to be signed is no header. -/
example : readHeader (.ofMembers [("typ", .ofString "JWT"), ("alg", .ofString "none")]) = none := by
  decide

end Jwt

end SessionTokens
