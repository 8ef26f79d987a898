import SessionTokens.Json.Printer
import SessionTokens.Json.Strict
import SessionTokens.Proofs.Json.Parsing
import SessionTokens.Proofs.Text.Decimal
import SessionTokens.Proofs.Text.Utf8Decoding

/-! # What is written is a text of the grammar

A value can be written when its strings are texts and its numbers have a digit wherever the grammar
wants one. What is written then spells the value, so that parsing gives it back.
-/

namespace SessionTokens

open Text Json Grammar

/-- Whether digits can stand where there has to be one. -/
def areDigits (digits : List Nat) : Bool :=
  !digits.isEmpty && digits.all fun digit => decide (digit < 10)

/-- Whether a number has digits after its point and in its exponent. -/
def JsonNumber.isWritable (n : JsonNumber) : Bool :=
  n.fraction.all areDigits && n.exponent.all fun (_, digits) => areDigits digits

namespace Json

mutual

/-- Whether a value can be written so that it is read back. -/
def isWritable : Json → Bool
  | .number n => n.isWritable
  | .string content => content.isText
  | .array items => areWritable items
  | .object members => areMembersWritable members
  | _ => true

/-- Whether all items of an array can be written. -/
def areWritable : List Json → Bool
  | [] => true
  | item :: rest => item.isWritable && areWritable rest

/-- Whether all members of an object can be written. -/
def areMembersWritable : List (JsonText × Json) → Bool
  | [] => true
  | (name, value) :: rest => name.isText && value.isWritable && areMembersWritable rest

end

/-! ## Numbers -/

theorem Grammar.Decimals.append {digits more : List Nat} {bytes others : List UInt8}
    (h : Decimals digits bytes) (hmore : Decimals more others) :
    Decimals (digits ++ more) (bytes ++ others) := by
  induction h with
  | nil => exact hmore
  | cons hdigit _ ih => exact .cons hdigit ih

theorem encodeChar_digitChar :
    ∀ digit < 10, Utf8.encodeChar (digitChar digit) = [UInt8.ofNat (48 + digit)] ∧
      decimal? (UInt8.ofNat (48 + digit)) = some digit := by
  decide

theorem decimals_digitsText {digits : List Nat} (h : ∀ digit ∈ digits, digit < 10) :
    Decimals digits (Utf8.encode (digitsText digits)) := by
  induction digits with
  | nil => exact .nil
  | cons digit digits ih =>
      obtain ⟨hbyte, hdigit⟩ := encodeChar_digitChar digit (h digit List.mem_cons_self)
      rw [digitsText, List.map_cons, Utf8.encode_cons, hbyte]
      exact .cons hdigit (ih fun d hd => h d (List.mem_cons_of_mem _ hd))

theorem whole_natDigits (n : Nat) : Whole n (Utf8.encode (natDigits n)) := by
  obtain ⟨first, rest, htext, hdigits, hvalue, hlead⟩ := exists_natDigits n
  by_cases hzero : first = 0
  · rw [hlead hzero, natDigits]
    exact .zero
  · rw [htext, ← hvalue]
    exact .digits (decimals_digitsText hdigits) hzero

theorem areDigits_iff {digits : List Nat} :
    areDigits digits = true ↔ digits ≠ [] ∧ ∀ digit ∈ digits, digit < 10 := by
  simp [areDigits]

theorem fraction_written (fraction : Option (List Nat)) :
    fraction.all areDigits = true →
      Fraction fraction (Utf8.encode
        (match fraction with
          | none => []
          | some digits => '.' :: digitsText digits)) := by
  intro h
  match fraction with
  | none => exact .absent
  | some digits =>
      obtain ⟨hne, hdigits⟩ := areDigits_iff.mp h
      exact .present (decimals_digitsText hdigits) hne

theorem exponent_written (exponent : Option (Bool × List Nat)) :
    (exponent.all fun (_, digits) => areDigits digits) = true →
      Exponent exponent (Utf8.encode
        (match exponent with
          | none => []
          | some (negative, digits) =>
              'e' :: (if negative then ['-'] else []) ++ digitsText digits)) := by
  intro h
  match exponent with
  | none => exact .absent
  | some (negative, digits) =>
      obtain ⟨hne, hdigits⟩ := areDigits_iff.mp h
      have hspelled := decimals_digitsText hdigits
      cases negative with
      | false => exact .present (.inl rfl) .absent hspelled hne
      | true =>
          change Exponent _ (0x65 :: ([0x2D] ++ Utf8.encode (digitsText digits)))
          exact .present (.inl rfl) .minus hspelled hne

theorem number_written {n : JsonNumber} (h : n.isWritable = true) :
    Value (.number n) (Utf8.encode (numberText n)) := by
  obtain ⟨hfraction, hexponent⟩ := Bool.and_eq_true_iff.mp h
  have hmagnitude : Magnitude n _ := .mk (whole_natDigits n.whole)
    (fraction_written n.fraction hfraction) (exponent_written n.exponent hexponent)
  cases hsign : n.negative with
  | false =>
      simp only [numberText, hsign, Bool.false_eq_true, if_false, List.nil_append,
        Utf8.encode_append, List.append_assoc]
      exact .number hsign hmagnitude
  | true =>
      simp only [numberText, hsign, if_true, Utf8.encode_append, List.append_assoc]
      exact .negative hsign hmagnitude

/-! ## Strings -/

/-- The pieces of which the written form of a character consists. -/
def piecesOf (c : Char) : List StringPiece :=
  if c.toNat < 0x20 ∨ c = '"' ∨ c = '\\' then [.escaped c.toNat]
  else (Utf8.encodeChar c).map .byte

/-- A short escape stands for the code unit of its character. -/
theorem pieces_short {c : Char} {b : UInt8} (hshort : shortEscape? b = some c.toNat)
    {pieces : List StringPiece} {bytes : List UInt8} (h : Pieces pieces bytes) :
    Pieces (.escaped c.toNat :: pieces) ([0x5C, b] ++ bytes) :=
  .short hshort h

theorem unicode_escape :
    ∀ n < 0x20, ∃ a b,
      Utf8.encode ['\\', 'u', '0', '0', hexChar (n / 16), hexChar (n % 16)] =
        [0x5C, 0x75, 0x30, 0x30, a, b] ∧ unitOfHex? 0x30 0x30 a b = some n := by
  intro n hn
  refine ⟨UInt8.ofNat (hexChar (n / 16)).toNat, UInt8.ofNat (hexChar (n % 16)).toNat, ?_⟩
  revert n
  decide

/-- The bytes of a character that is written as it is need no escape. -/
theorem plain_bytes {c : Char} (hcontrol : ¬ c.toNat < 0x20) (hquote : c ≠ '"')
    (hbackslash : c ≠ '\\') :
    ∀ b ∈ Utf8.encodeChar c, ¬ b < 0x20 ∧ b ≠ 0x22 ∧ b ≠ 0x5C := by
  have hrange := Utf8.toNat_range c
  suffices h : ∀ n ∈ Utf8.encodeScalar c.toNat, 0x20 ≤ n ∧ n ≠ 0x22 ∧ n ≠ 0x5C ∧ n < 256 by
    intro b hb
    obtain ⟨n, hn, rfl⟩ := List.mem_map.mp hb
    obtain ⟨hlow, hnquote, hnbackslash, hbyte⟩ := h n hn
    rw [UInt8.lt_iff_toNat_lt, ne_eq, ne_eq, ← UInt8.toNat_inj, ← UInt8.toNat_inj,
      toNat_byte hbyte]
    exact ⟨Nat.not_lt.mpr hlow, hnquote, hnbackslash⟩
  have hnquote : c.toNat ≠ 0x22 := fun h => hquote (Char.toNat_inj.mp h)
  have hnbackslash : c.toNat ≠ 0x5C := fun h => hbackslash (Char.toNat_inj.mp h)
  intro n hn
  unfold Utf8.encodeScalar at hn
  split at hn
  · rw [List.mem_singleton.mp hn]
    omega
  · repeat' split at hn
    all_goals
      simp only [List.mem_cons, List.not_mem_nil, or_false] at hn
      omega

theorem pieces_bytes {text : List UInt8} (h : ∀ b ∈ text, ¬ b < 0x20 ∧ b ≠ 0x22 ∧ b ≠ 0x5C)
    {pieces : List StringPiece} {bytes : List UInt8} (hpieces : Pieces pieces bytes) :
    Pieces (text.map .byte ++ pieces) (text ++ bytes) := by
  induction text with
  | nil => exact hpieces
  | cons b text ih =>
      obtain ⟨hcontrol, hquote, hbackslash⟩ := h b List.mem_cons_self
      exact .byte hcontrol hquote hbackslash (ih fun b hb => h b (List.mem_cons_of_mem _ hb))

/-- A character is written as its pieces. -/
theorem pieces_escape (c : Char) {pieces : List StringPiece} {bytes : List UInt8}
    (h : Pieces pieces bytes) :
    Pieces (piecesOf c ++ pieces) (Utf8.encode (escape c) ++ bytes) := by
  unfold escape
  split
  next hc => subst hc; exact pieces_short (c := '"') rfl h
  split
  next hc => subst hc; exact pieces_short (c := '\\') rfl h
  split
  next hc => subst hc; exact pieces_short (c := '\x08') rfl h
  split
  next hc => subst hc; exact pieces_short (c := '\t') rfl h
  split
  next hc => subst hc; exact pieces_short (c := '\n') rfl h
  split
  next hc => subst hc; exact pieces_short (c := '\x0c') rfl h
  split
  next hc => subst hc; exact pieces_short (c := '\r') rfl h
  split
  next hcontrol =>
    obtain ⟨a, b, hbytes, hunit⟩ := unicode_escape c.toNat hcontrol
    rw [piecesOf, if_pos (.inl hcontrol), hbytes]
    exact .unicode hunit h
  next hquote hbackslash _ _ _ _ _ hcontrol =>
    rw [piecesOf, if_neg (not_or.mpr ⟨hcontrol, not_or.mpr ⟨hquote, hbackslash⟩⟩),
      Utf8.encode_cons, Utf8.encode_nil, List.append_nil]
    exact pieces_bytes (plain_bytes hcontrol hquote hbackslash) h

theorem pieces_flatMap_escape (text : List Char) :
    Pieces (text.flatMap piecesOf) (Utf8.encode (text.flatMap escape)) := by
  induction text with
  | nil => exact .nil
  | cons c text ih =>
      rw [List.flatMap_cons, List.flatMap_cons, Utf8.encode_append]
      exact pieces_escape c ih

theorem pairedBytes?_bytes (bytes : List UInt8) (rest : List StringPiece) :
    pairedBytes? (bytes.map .byte ++ rest) = (pairedBytes? rest).map (bytes ++ ·) := by
  induction bytes with
  | nil => simp
  | cons b bytes ih =>
      rw [List.map_cons, List.cons_append, pairedBytes?, ih]
      cases pairedBytes? rest <;> rfl

/-- A code unit that is no surrogate stands for itself, whatever follows it. -/
theorem pairedBytes?_unit {unit : Nat} (hhigh : isHighSurrogate unit = false)
    (hlow : isLowSurrogate unit = false) (rest : List StringPiece) :
    pairedBytes? (.escaped unit :: rest) = (pairedBytes? rest).map (scalarBytes unit ++ ·) := by
  match rest with
  | [] => simp [pairedBytes?, hhigh, hlow]
  | .byte b :: rest => simp [pairedBytes?, hhigh, hlow]
  | .escaped low :: rest => simp only [pairedBytes?, hhigh, hlow, Bool.false_eq_true, if_false]

theorem pairedBytes?_piecesOf (c : Char) (rest : List StringPiece) :
    pairedBytes? (piecesOf c ++ rest) = (pairedBytes? rest).map (Utf8.encodeChar c ++ ·) := by
  unfold piecesOf
  split
  next hescaped =>
    have hsmall : c.toNat < 0x80 := by
      rcases hescaped with h | rfl | rfl
      · omega
      · decide
      · decide
    exact pairedBytes?_unit (by simp [isHighSurrogate]; omega)
      (by simp [isLowSurrogate]; omega) rest
  next => exact pairedBytes?_bytes _ rest

theorem pairedBytes?_flatMap (text : List Char) :
    pairedBytes? (text.flatMap piecesOf) = some (Utf8.encode text) := by
  induction text with
  | nil => rfl
  | cons c text ih =>
      rw [List.flatMap_cons, pairedBytes?_piecesOf, ih]
      rfl

theorem contents_flatMap (text : String) :
    contents (text.toList.flatMap piecesOf) = .text text := by
  rw [contents, pairedBytes?_flatMap]
  simp only [Utf8.decode_encode, String.ofList_toList]

/-- A text between quotes spells itself. -/
theorem string_written (text : String) :
    Value (.string (.text text)) (Utf8.encode (quote text)) := by
  have h := Value.string (pieces_flatMap_escape text.toList)
  rw [contents_flatMap] at h
  rw [quote, Utf8.encode_append]
  exact h

theorem text_written {name : JsonText} (h : name.isText = true) :
    Value (.string name) (Utf8.encode (quoteText name)) := by
  cases name with
  | text content => exact string_written content
  | unpairedSurrogate => cases h
  | notUtf8 => cases h

/-- The written form of a name, with the colon after it. -/
theorem name_written {name : JsonText} (h : name.isText = true) :
    Name name (Utf8.encode (quoteText name ++ [':'])) := by
  cases name with
  | text content =>
      have hname := Name.mk .nil (pieces_flatMap_escape content.toList) .nil
      rw [contents_flatMap] at hname
      rw [quoteText, quote, List.append_assoc, Utf8.encode_append]
      exact hname
  | unpairedSurrogate => cases h
  | notUtf8 => cases h

/-! ## Values -/

theorem item_written {item : Json} {text : List UInt8} (h : Value item text) :
    Items [item] text := by
  have hitem := Items.last .nil h .nil
  rwa [List.nil_append, List.append_nil] at hitem

theorem member_written {name : JsonText} {value : Json} {head text : List UInt8}
    (hname : Name name head) (h : Value value text) : Members [(name, value)] (head ++ text) := by
  have hmember := Members.last hname .nil h .nil
  rwa [List.nil_append, List.append_nil] at hmember

mutual

/-- What is written spells the value. -/
theorem value_written : ∀ value : Json, value.isWritable = true →
    Value value (Utf8.encode (render value))
  | .null, _ => .null
  | .bool true, _ => .true
  | .bool false, _ => .false
  | .number _, h => number_written h
  | .string _, h => text_written h
  | .array items, h => by
      rw [render, Utf8.encode_append]
      by_cases hempty : items = []
      · rw [hempty]
        exact .emptyArray .nil
      · exact .array (items_written items h hempty)
  | .object members, h => by
      rw [render, Utf8.encode_append]
      by_cases hempty : members = []
      · rw [hempty]
        exact .emptyObject .nil
      · exact .object (members_written members h hempty)

theorem items_written : ∀ items : List Json, areWritable items = true → items ≠ [] →
    Items items (Utf8.encode (renderItems items))
  | [], _, hne => absurd rfl hne
  | [item], h, _ => item_written (value_written item (Bool.and_eq_true_iff.mp h).1)
  | item :: next :: rest, h, _ => by
      obtain ⟨hitem, hrest⟩ := Bool.and_eq_true_iff.mp h
      have hwritten := Items.cons .nil (value_written item hitem) .nil
        (items_written (next :: rest) hrest (List.cons_ne_nil next rest))
      rw [renderItems, Utf8.encode_append]
      · exact hwritten
      · exact List.cons_ne_nil next rest

theorem members_written : ∀ members : List (JsonText × Json), areMembersWritable members = true →
    members ≠ [] → Members members (Utf8.encode (renderMembers members))
  | [], _, hne => absurd rfl hne
  | [(name, value)], h, _ => by
      obtain ⟨hmember, -⟩ := Bool.and_eq_true_iff.mp h
      obtain ⟨hname, hvalue⟩ := Bool.and_eq_true_iff.mp hmember
      have hwritten := member_written (name_written hname) (value_written value hvalue)
      rwa [← Utf8.encode_append, List.append_assoc] at hwritten
  | (name, value) :: next :: rest, h, _ => by
      obtain ⟨hmember, hrest⟩ := Bool.and_eq_true_iff.mp h
      obtain ⟨hname, hvalue⟩ := Bool.and_eq_true_iff.mp hmember
      have hwritten := Members.cons (name_written hname) .nil (value_written value hvalue) .nil
        (members_written (next :: rest) hrest (List.cons_ne_nil next rest))
      rw [Utf8.encode_append, List.append_assoc] at hwritten
      rw [renderMembers, Utf8.encode_append, Utf8.encode_append, List.append_assoc]
      · exact hwritten
      · exact List.cons_ne_nil next rest

end

/-- Parsing what was written gives the value back. -/
theorem parse_render {value : Json} (h : value.isWritable = true) :
    parse (Utf8.encode (render value)) = some value := by
  have hspells := Spells.mk .nil (value_written value h) .nil
  rw [List.nil_append, List.append_nil] at hspells
  exact parse_eq_some_iff.mpr hspells

end Json

end SessionTokens
