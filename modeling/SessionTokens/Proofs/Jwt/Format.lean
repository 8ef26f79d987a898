import SessionTokens.Jwt.Signer
import SessionTokens.Proofs.Json.Parsing
import SessionTokens.Proofs.Jwt.Header
import SessionTokens.Proofs.Jwt.StrictBase64
import SessionTokens.Proofs.Text.Integer

/-! # The format of signed tokens

The format is stated by what a token consists of, not by how it is read: the parts between its last
two marks, the bytes that they are the base64 of, and what those bytes spell. Extraction accepts the
tokens of this format and no other text.
-/

namespace SessionTokens.Jwt

open Json Text Time

/-- A member that occurs once and names an instant by its whole seconds, as an integer of 64
bits. -/
def NamesInstant (members : List (String × Json)) (name : String) (time : Instant) : Prop :=
  ∃ second : Int, OccursOnce members name (.ofInt second) ∧
    IntegerBounds.signed64.contains second = true ∧ time.nanos = second * nanosPerSecond

/-- The spelling of a number is read to its end. A number other than zero is given up where its
exponent exceeds 31 bits, unless that is at the last digit of all. -/
inductive ReadsToItsEnd (n : JsonNumber) : Prop
  | plain (hexponent : n.exponent = none)
  | small (hexponent : n.exponent = some (true, digits))
  | zero (hwhole : n.whole = 0) (hfraction : ∀ digit ∈ n.fraction.getD [], digit = 0)
  | great (hexponent : n.exponent = some (false, digits))
      (hfits : valueIn 10 digits.dropLast ≤ 2147483647)

/-- A not-before claim that is passed over. It has no effect, but no reading of it may stop within
it: not at the first of several items or members, and not at half of a surrogate pair with more of
the string behind it. -/
inductive IsPassedOver : Json → Prop
  | null : IsPassedOver .null
  | bool : IsPassedOver (.bool value)
  | number (hend : ReadsToItsEnd n) : IsPassedOver (.number n)
  | text : IsPassedOver (.string (.text content))
  | bytes : IsPassedOver (.string .notUtf8)
  | brokenOff : IsPassedOver (.string (.unpairedSurrogate true))
  | array : IsPassedOver (.array [])
  | object : IsPassedOver (.object [])

/-- The members of an object state claims: each claim occurs once, with the value that it has.
Other members do not matter, except that a not-before claim must not be repeated and has to be
one that is passed over. -/
structure StatesClaims (members : List (String × Json)) (claims : Claims) : Prop where
  issuer : OccursOnce members "iss" (.ofString claims.issuer)
  subject : OccursOnce members "sub" (.ofString claims.subject)
  audience : OccursOnce members "aud" (.ofString claims.audience)
  role : OccursOnce members "role" (.ofString claims.role)
  issuedAt : NamesInstant members "iat" claims.issuedAt
  expiresAt : NamesInstant members "exp" claims.expiresAt
  notBefore : Absent members "nbf" ∨ MustOccur members "nbf" IsPassedOver

/-- A text is the written form of a header with the signature algorithm of this service. -/
def IsHeader (text : List Char) : Prop :=
  ∃ bytes json, text = Base64Url.encode bytes ∧ Spells json bytes ∧ IsHeaderFor "HS512" json

/-- A text is the written form of an object that states claims. -/
def IsPayload (text : List Char) (claims : Claims) : Prop :=
  ∃ bytes members, text = Base64Url.encode bytes ∧ Spells (.ofMembers members) bytes ∧
    StatesClaims members claims

/-- A text is a token for claims that was signed with a secret. The marks are its last two, and the
signature is the written form of the keyed digest of what stands before it. -/
structure IsSigned (text : List Char) (secret : TokenSecret) (claims : Claims)
    (head body signature : List Char) : Prop where
  text_eq : text = head ++ '.' :: body ++ '.' :: signature
  body_unmarked : '.' ∉ body
  signature_unmarked : '.' ∉ signature
  signature_eq : signature =
    Base64Url.encode (Crypto.Hmac.sha512 secret.bytes (Utf8.encode (head ++ '.' :: body)))
  header : IsHeader head
  payload : IsPayload body claims

/-! ## Reading the payload -/

theorem toInt?_eq_some_iff {n : JsonNumber} {value : Int} :
    n.toInt? = some value ↔ n = ⟨decide (value < 0), value.natAbs, none, none⟩ := by
  obtain ⟨negative, whole, fraction, exponent⟩ := n
  constructor
  · intro h
    unfold JsonNumber.toInt? at h
    split at h
    next hfraction hexponent =>
      simp only at hfraction hexponent h
      subst hfraction hexponent
      cases negative with
      | false =>
          cases h
          simp
      | true =>
          simp only [if_true] at h
          split at h
          next => cases h
          next hwhole =>
            cases h
            simp only [JsonNumber.mk.injEq, and_true]
            exact ⟨(decide_eq_true (by omega)).symm, by omega⟩
    next => cases h
  · intro h
    cases h
    unfold JsonNumber.toInt?
    by_cases hnegative : value < 0
    · simp only [hnegative, decide_true, if_true]
      rw [if_neg (by omega)]
      congr 1
      omega
    · simp only [hnegative, decide_false, Bool.false_eq_true, if_false]
      congr 1
      omega

theorem readSecond_eq_some_iff {json : Json} {time : Instant} :
    readSecond json = some time ↔
      ∃ second : Int, json = .ofInt second ∧ IntegerBounds.signed64.contains second = true ∧
        time.nanos = second * nanosPerSecond := by
  rw [readSecond, Option.bind_eq_some_iff]
  constructor
  · rintro ⟨second, hread, htime⟩
    unfold readInt at hread
    split at hread
    next n =>
      split at hread
      next => cases hread
      next value hvalue =>
        split at hread
        next hbounds =>
          cases hread
          rw [toInt?_eq_some_iff.mp hvalue]
          exact ⟨second, rfl, hbounds, Instant.ofNanos?_eq_some.mp htime⟩
        next => cases hread
    next => cases hread
  · rintro ⟨second, rfl, hbounds, htime⟩
    refine ⟨second, ?_, Instant.ofNanos?_eq_some.mpr htime⟩
    have hvalue := toInt?_eq_some_iff.mpr (Eq.refl (⟨decide (second < 0), second.natAbs, none,
      none⟩ : JsonNumber))
    simp only [readInt, Json.ofInt, hvalue, hbounds, if_true]

/-- Reading stops before the last digit exactly if the digits before the last exceed 31 bits. -/
theorem exponentDigitsRead_eq_length_iff (digits : List Nat) {value : Nat}
    (hvalue : value ≤ 2147483647) :
    exponentDigitsRead value digits = digits.length ↔
      digits.dropLast.foldl (· * 10 + ·) value ≤ 2147483647 := by
  induction digits generalizing value with
  | nil => exact iff_of_true rfl hvalue
  | cons digit rest ih =>
      cases rest with
      | nil =>
          refine iff_of_true ?_ hvalue
          rw [exponentDigitsRead]
          split <;> rfl
      | cons next rest =>
          rw [exponentDigitsRead, List.dropLast_cons_cons, List.foldl_cons]
          split
          next hexceeds =>
            have hgrown := le_foldl_digits (next :: rest).dropLast (value * 10 + digit)
            exact iff_of_false (by simp) (by omega)
          next hfits =>
            rw [← ih (by omega)]
            simp only [List.length_cons]
            omega

theorem isReadToItsEnd_iff {n : JsonNumber} : isReadToItsEnd n = true ↔ ReadsToItsEnd n := by
  have hzero : (n.whole == 0 && (n.fraction.getD []).all (· == 0)) = true ↔
      n.whole = 0 ∧ ∀ digit ∈ n.fraction.getD [], digit = 0 := by
    simp
  have hgreat (digits : List Nat) : (exponentDigitsRead 0 digits == digits.length) = true ↔
      valueIn 10 digits.dropLast ≤ 2147483647 :=
    beq_iff_eq.trans (exponentDigitsRead_eq_length_iff digits (by decide))
  unfold isReadToItsEnd
  split
  next digits hexponent =>
    rw [Bool.or_eq_true, hzero, hgreat]
    constructor
    · rintro (⟨hwhole, hfraction⟩ | hfits)
      · exact .zero hwhole hfraction
      · exact .great hexponent hfits
    · rintro (hnone | hsmall | ⟨hwhole, hfraction⟩ | ⟨hsame, hfits⟩)
      · cases hexponent.symm.trans hnone
      · cases hexponent.symm.trans hsmall
      · exact .inl ⟨hwhole, hfraction⟩
      · cases hexponent.symm.trans hsame
        exact .inr hfits
  next hother =>
    refine iff_of_true rfl ?_
    cases hexponent : n.exponent with
    | none => exact .plain hexponent
    | some exponent =>
        obtain ⟨_ | _, digits⟩ := exponent
        · exact absurd hexponent (hother digits)
        · exact .small hexponent

theorem isPassable_iff {json : Json} : isPassable json = true ↔ IsPassedOver json := by
  cases json with
  | null => exact iff_of_true rfl .null
  | bool value => exact iff_of_true rfl .bool
  | number n => exact isReadToItsEnd_iff.trans ⟨.number, fun | .number hend => hend⟩
  | string content =>
      cases content with
      | text content => exact iff_of_true rfl .text
      | notUtf8 => exact iff_of_true rfl .bytes
      | unpairedSurrogate breaksOff =>
          cases breaksOff with
          | true => exact iff_of_true rfl .brokenOff
          | false => exact iff_of_false nofun nofun
  | array items =>
      cases items with
      | nil => exact iff_of_true rfl .array
      | cons => exact iff_of_false nofun nofun
  | object members =>
      cases members with
      | nil => exact iff_of_true rfl .object
      | cons => exact iff_of_false nofun nofun

/-- The fields that are looked for in a payload. -/
def payloadNames : List String := ["iss", "sub", "aud", "iat", "exp", "role", "nbf"]

theorem StatesClaims.once {members : List (String × Json)} {claims : Claims}
    (h : StatesClaims members claims) :
    ∀ name ∈ payloadNames, (members.filter fun member => member.1 == name).length ≤ 1 := by
  obtain ⟨issued, hissued, -⟩ := h.issuedAt
  obtain ⟨expires, hexpires, -⟩ := h.expiresAt
  intro name hname
  simp only [payloadNames, List.mem_cons, List.not_mem_nil, or_false] at hname
  rcases hname with rfl | rfl | rfl | rfl | rfl | rfl | rfl
  · exact h.issuer.length_le
  · exact h.subject.length_le
  · exact h.audience.length_le
  · exact hissued.length_le
  · exact hexpires.length_le
  · exact h.role.length_le
  · rcases h.notBefore with habsent | hoccurs
    · exact habsent.length_le
    · exact hoccurs.length_le

section Fields

variable {members : List (String × Json)} {f : Fields}

theorem required_text_iff (h : HasFields payloadNames members f) {name : String}
    (hname : name ∈ payloadNames) {text : String} :
    f.required name readText = some text ↔ OccursOnce members name (.ofString text) := by
  rw [h.required_eq_some_iff hname]
  constructor
  · rintro ⟨value, honce, hread⟩
    rwa [readText_eq_some_iff.mp hread] at honce
  · intro honce
    exact ⟨_, honce, rfl⟩

theorem required_second_iff (h : HasFields payloadNames members f) {name : String}
    (hname : name ∈ payloadNames) {time : Instant} :
    f.required name readSecond = some time ↔ NamesInstant members name time := by
  rw [h.required_eq_some_iff hname]
  constructor
  · rintro ⟨value, honce, hread⟩
    obtain ⟨second, rfl, hbounds, htime⟩ := readSecond_eq_some_iff.mp hread
    exact ⟨second, honce, hbounds, htime⟩
  · rintro ⟨second, honce, hbounds, htime⟩
    exact ⟨_, honce, readSecond_eq_some_iff.mpr ⟨second, rfl, hbounds, htime⟩⟩

theorem passable_iff (h : HasFields payloadNames members f) {name : String}
    (hname : name ∈ payloadNames) :
    (f.get? name).all isPassable = true ↔
      Absent members name ∨ MustOccur members name IsPassedOver := by
  cases hget : f.get? name with
  | none =>
      have habsent := (h.get?_eq_none_iff hname).mp hget
      exact iff_of_true rfl (.inl habsent)
  | some value =>
      have honce := (h.get?_eq_some_iff hname).mp hget
      rw [Option.all_some, isPassable_iff]
      constructor
      · exact fun hpassed => .inr ⟨value, honce, hpassed⟩
      · rintro (habsent | ⟨other, hother, hpassed⟩)
        · rw [(h.get?_eq_none_iff hname).mpr habsent] at hget
          cases hget
        · rw [(h.get?_eq_some_iff hname).mpr hother] at hget
          cases hget
          exact hpassed

end Fields

/-- A payload is read exactly when it is an object that states claims, and as these claims. -/
theorem readPayload_eq_some_iff {json : Json} {claims : Claims} :
    readPayload json = some claims ↔
      ∃ members, json = .ofMembers members ∧ StatesClaims members claims := by
  constructor
  · intro h
    unfold readPayload at h
    split at h
    next =>
      simp only [Option.bind_eq_bind, Option.bind_eq_some_iff] at h
      obtain ⟨f, hfields, issuer, hissuer, subject, hsubject, audience, haudience, issuedAt,
        hissuedAt, expiresAt, hexpiresAt, role, hrole, hclaims⟩ := h
      obtain ⟨members, heq, hf, -⟩ := objectFields_eq_some_iff.mp hfields
      split at hclaims
      next hnotBefore =>
        cases hclaims
        refine ⟨members, heq, ?_⟩
        exact {
          issuer := (required_text_iff hf (by decide)).mp hissuer
          subject := (required_text_iff hf (by decide)).mp hsubject
          audience := (required_text_iff hf (by decide)).mp haudience
          role := (required_text_iff hf (by decide)).mp hrole
          issuedAt := (required_second_iff hf (by decide)).mp hissuedAt
          expiresAt := (required_second_iff hf (by decide)).mp hexpiresAt
          notBefore := (passable_iff hf (by decide)).mp hnotBefore }
      next => cases hclaims
    next => cases h
  · rintro ⟨members, rfl, h⟩
    obtain ⟨f, hf, hpositional⟩ := exists_hasFields h.once false
    have hfields := objectFields_ofMembers_eq_some_iff.mpr ⟨hf, hpositional⟩
    simp only [readPayload, Json.ofMembers, Option.bind_eq_bind, Option.bind_eq_some_iff]
    refine ⟨_, hfields, claims.issuer, (required_text_iff hf (by decide)).mpr h.issuer,
      claims.subject, (required_text_iff hf (by decide)).mpr h.subject,
      claims.audience, (required_text_iff hf (by decide)).mpr h.audience,
      claims.issuedAt, (required_second_iff hf (by decide)).mpr h.issuedAt,
      claims.expiresAt, (required_second_iff hf (by decide)).mpr h.expiresAt,
      claims.role, (required_text_iff hf (by decide)).mpr h.role, ?_⟩
    rw [if_pos ((passable_iff hf (by decide)).mpr h.notBefore)]

theorem decodePart_eq_some_iff {part : List Char} {json : Json} :
    decodePart part = some json ↔ ∃ bytes, part = Base64Url.encode bytes ∧ Spells json bytes := by
  rw [decodePart, Option.bind_eq_some_iff]
  simp only [Base64Url.decode_eq_some_iff, parse_eq_some_iff]

theorem isHeader_iff {text : List Char} :
    IsHeader text ↔ (decodePart text).bind readHeader = some .hs512 := by
  rw [Option.bind_eq_some_iff]
  simp only [decodePart_eq_some_iff, readHeader_eq_some_iff]
  constructor
  · rintro ⟨bytes, json, htext, hspells, hheader⟩
    exact ⟨json, ⟨bytes, htext, hspells⟩, hheader⟩
  · rintro ⟨json, ⟨bytes, htext, hspells⟩, hheader⟩
    exact ⟨bytes, json, htext, hspells, hheader⟩

theorem isPayload_iff {text : List Char} {claims : Claims} :
    IsPayload text claims ↔ (decodePart text).bind readPayload = some claims := by
  rw [Option.bind_eq_some_iff]
  simp only [decodePart_eq_some_iff, readPayload_eq_some_iff]
  constructor
  · rintro ⟨bytes, members, htext, hspells, hstates⟩
    exact ⟨_, ⟨bytes, htext, hspells⟩, members, rfl, hstates⟩
  · rintro ⟨_, ⟨bytes, htext, hspells⟩, members, rfl, hstates⟩
    exact ⟨bytes, members, htext, hspells, hstates⟩

/-! ## Extraction -/

theorem dot_not_mem_signature (secret : TokenSecret) (message : List Char) :
    '.' ∉ signature secret message :=
  Base64Url.dot_not_mem_encode _

theorem extract?_eq_some_iff {text : List Char} {secret : TokenSecret} {claims : Claims} :
    extract? text secret = some claims ↔
      ∃ head body signature, IsSigned text secret claims head body signature := by
  constructor
  · intro h
    simp only [extract?, Option.bind_eq_bind, Option.bind_eq_some_iff] at h
    obtain ⟨⟨message, given⟩, hmessage, ⟨head, body⟩, hbody, algorithm, halgorithm, h⟩ := h
    obtain ⟨rfl, hgiven⟩ := splitLast_eq_some.mp hmessage
    obtain ⟨rfl, hunmarked⟩ := splitLast_eq_some.mp hbody
    split at h
    next hsigned =>
      obtain ⟨rfl, hsignature⟩ := hsigned
      refine ⟨head, body, given, ?_⟩
      exact {
        text_eq := by rw [List.append_assoc, List.cons_append]
        body_unmarked := hunmarked
        signature_unmarked := hgiven
        signature_eq := hsignature
        header := isHeader_iff.mpr (Option.bind_eq_some_iff.mpr halgorithm)
        payload := isPayload_iff.mpr h }
    next => cases h
  · rintro ⟨head, body, given, h⟩
    have htext : text = (head ++ '.' :: body) ++ '.' :: given := by
      rw [h.text_eq, List.append_assoc, List.cons_append]
    simp only [extract?, Option.bind_eq_bind, Option.bind_eq_some_iff]
    refine ⟨_, htext ▸ splitLast_append h.signature_unmarked _, _,
      splitLast_append h.body_unmarked head, .hs512,
      Option.bind_eq_some_iff.mp (isHeader_iff.mp h.header), ?_⟩
    rw [if_pos ⟨rfl, h.signature_eq⟩]
    exact isPayload_iff.mp h.payload

theorem extract_eq_ok {token : AccessToken} {secret : TokenSecret} {claims : Claims} :
    extract token secret = .ok claims ↔ extract? token.text.toList secret = some claims := by
  unfold extract
  split
  next heq => simp [heq]
  next heq => simp [heq]

/-- Extraction accepts exactly the tokens of the format that were signed with the secret, and gives
what they claim. Every other text is refused with the one error that extraction failed. -/
theorem extract_accepts_exactly_signed (token : AccessToken) (secret : TokenSecret) :
    (∀ claims, extract token secret = .ok claims ↔
      ∃ head body signature, IsSigned token.text.toList secret claims head body signature) ∧
    (extract token secret = .error .claimsExtraction ↔
      ¬ ∃ claims head body signature,
        IsSigned token.text.toList secret claims head body signature) := by
  refine ⟨fun claims => extract_eq_ok.trans extract?_eq_some_iff, ?_⟩
  unfold extract
  split
  next claims heq =>
    constructor
    · intro h
      cases h
    · intro hnone
      exact absurd ⟨claims, extract?_eq_some_iff.mp heq⟩ hnone
  next heq =>
    constructor
    · rintro - ⟨claims, hsigned⟩
      rw [extract?_eq_some_iff.mpr hsigned] at heq
      cases heq
    · intro
      rfl

end SessionTokens.Jwt
