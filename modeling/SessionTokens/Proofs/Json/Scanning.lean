import SessionTokens.Proofs.Json.Grammar

/-! # The parts of a JSON text are scanned as the grammar has them

For every part of the grammar below a value there are two lemmas: what is scanned is such a part
with the bytes after it left over, and such a part is scanned whole. A number goes on for as long as
it can, so it is scanned whole only where the bytes after it do not go on with it.
-/

namespace SessionTokens.Json

open Text Grammar

/-! ## Blanks -/

theorem Blanks.nil : Blanks [] := fun _ h => nomatch h

theorem Blanks.append {before after : List UInt8} (hbefore : Blanks before)
    (hafter : Blanks after) : Blanks (before ++ after) := by
  intro b hb
  rcases List.mem_append.mp hb with h | h
  · exact hbefore b h
  · exact hafter b h

theorem skipBlanks_append {before : List UInt8} (h : Blanks before) (rest : List UInt8) :
    skipBlanks (before ++ rest) = skipBlanks rest :=
  List.dropWhile_append_of_pos h

theorem skipBlanks_cons {b : UInt8} (h : isBlankByte b = false) (rest : List UInt8) :
    skipBlanks (b :: rest) = b :: rest := by
  rw [skipBlanks, List.dropWhile_cons_of_neg (by simp [h])]

/-- What skipping leaves is preceded by the blanks that were skipped. -/
theorem exists_blanks (bytes : List UInt8) :
    ∃ before, Blanks before ∧ bytes = before ++ skipBlanks bytes := by
  refine ⟨bytes.takeWhile isBlankByte, ?_, (List.takeWhile_append_dropWhile ..).symm⟩
  exact List.all_eq_true.mp List.all_takeWhile

theorem skipBlanks_of_blanks {bytes : List UInt8} (h : Blanks bytes) : skipBlanks bytes = [] := by
  simpa [skipBlanks] using skipBlanks_append h []

/-! ## Digits -/

theorem toNat_ofNat_byte (b : UInt8) : (Char.ofNat b.toNat).toNat = b.toNat := by
  have hb := b.toNat_lt
  rw [Char.ofNat, dif_pos (Or.inl (by omega))]
  rfl

theorem decimal?_eq_some {b : UInt8} {digit : Nat} :
    decimal? b = some digit ↔ 48 ≤ b.toNat ∧ b.toNat ≤ 57 ∧ digit = b.toNat - 48 := by
  have hrange : ('0' ≤ Char.ofNat b.toNat ∧ Char.ofNat b.toNat ≤ '9') ↔
      48 ≤ b.toNat ∧ b.toNat ≤ 57 := by
    rw [Char.le_def, Char.le_def, UInt32.le_iff_toNat_le, UInt32.le_iff_toNat_le]
    change 48 ≤ (Char.ofNat b.toNat).toNat ∧ (Char.ofNat b.toNat).toNat ≤ 57 ↔ _
    rw [toNat_ofNat_byte]
  have hzero : ('0' : Char).toNat = 48 := rfl
  rw [decimal?, digitValue?, toNat_ofNat_byte, hzero]
  split
  next h =>
    have hbounds := hrange.mp h
    constructor
    · intro heq
      cases heq
      exact ⟨hbounds.1, hbounds.2, rfl⟩
    · rintro ⟨-, -, rfl⟩
      rfl
  next h =>
    constructor
    · intro heq
      cases heq
    · rintro ⟨hlow, hhigh, -⟩
      exact absurd (hrange.mpr ⟨hlow, hhigh⟩) h

/-- The bytes do not go on with a decimal digit. -/
def NoDecimal (bytes : List UInt8) : Prop := ∀ b ∈ bytes.head?, decimal? b = none

theorem scanDecimals_sound {bytes rest : List UInt8} {digits : List Nat}
    (h : scanDecimals bytes = (digits, rest)) :
    ∃ text, Decimals digits text ∧ bytes = text ++ rest := by
  induction bytes generalizing digits rest with
  | nil => cases h; exact ⟨[], .nil, rfl⟩
  | cons b bytes ih =>
      rw [scanDecimals] at h
      cases hdigit : decimal? b with
      | none =>
          rw [hdigit] at h
          cases h
          exact ⟨[], .nil, rfl⟩
      | some digit =>
          rw [hdigit] at h
          cases h
          obtain ⟨text, htext, heq⟩ := ih rfl
          exact ⟨b :: text, .cons hdigit htext, by rw [List.cons_append, ← heq]⟩

theorem scanDecimals_append {digits : List Nat} {text : List UInt8} (h : Decimals digits text)
    {rest : List UInt8} (hrest : NoDecimal rest) :
    scanDecimals (text ++ rest) = (digits, rest) := by
  induction h with
  | nil =>
      cases rest with
      | nil => rfl
      | cons b rest => rw [List.nil_append, scanDecimals, hrest b rfl]
  | cons hdigit _ ih => rw [List.cons_append, scanDecimals, hdigit, ih]

/-! ## Numbers -/

theorem scanWhole_sound {bytes rest : List UInt8} {n : Nat} (h : scanWhole bytes = some (n, rest)) :
    ∃ text, Whole n text ∧ bytes = text ++ rest := by
  unfold scanWhole at h
  split at h
  next => cases h; exact ⟨[0x30], .zero, rfl⟩
  next hnonzero =>
    split at h
    next => cases h
    next digits tail hne hscan =>
      cases h
      obtain ⟨text, htext, rfl⟩ := scanDecimals_sound hscan
      cases htext with
      | nil => exact absurd rfl hne
      | @cons b digit digits text hdigit htext =>
          refine ⟨b :: text, .digits (.cons hdigit htext) ?_, rfl⟩
          -- a first digit of zero would be the byte that stands alone
          rintro rfl
          obtain ⟨hlow, hhigh, hvalue⟩ := decimal?_eq_some.mp hdigit
          have hb : b = 0x30 := UInt8.toNat_inj.mp (by change b.toNat = 48; omega)
          exact hnonzero _ (by rw [hb]; rfl)

theorem scanWhole_append {n : Nat} {text : List UInt8} (h : Whole n text) {rest : List UInt8}
    (hrest : NoDecimal rest) : scanWhole (text ++ rest) = some (n, rest) := by
  cases h with
  | zero => rfl
  | @digits digit digits text hdigits hne =>
      cases hdigits with
      | @cons b _ _ text hdigit htext =>
          have hb : b ≠ 0x30 := by
            rintro rfl
            exact hne (Option.some.inj hdigit).symm
          rw [scanWhole.eq_2 _ (by rintro rest heq; cases heq; exact hb rfl),
            scanDecimals_append (.cons hdigit htext) hrest]

theorem scanFraction_sound {bytes rest : List UInt8} {fraction : Option (List Nat)}
    (h : scanFraction bytes = some (fraction, rest)) :
    ∃ text, Fraction fraction text ∧ bytes = text ++ rest := by
  unfold scanFraction at h
  split at h
  next tail =>
    split at h
    next => cases h
    next digits _ hne hscan =>
      cases h
      obtain ⟨text, htext, rfl⟩ := scanDecimals_sound hscan
      refine ⟨0x2E :: text, .present htext ?_, rfl⟩
      rintro rfl
      exact hne rfl
  next => cases h; exact ⟨[], .absent, rfl⟩

theorem scanFraction_append {fraction : Option (List Nat)} {text : List UInt8}
    (h : Fraction fraction text) {rest : List UInt8} (hrest : NoDecimal rest)
    (hpoint : ∀ b ∈ rest.head?, b ≠ 0x2E) :
    scanFraction (text ++ rest) = some (fraction, rest) := by
  cases h with
  | absent =>
      rw [List.nil_append, scanFraction.eq_2]
      rintro tail rfl
      exact hpoint _ rfl rfl
  | @present digits text hdigits hne =>
      rw [List.cons_append, scanFraction, scanDecimals_append hdigits hrest]
      cases digits with
      | nil => exact absurd rfl hne
      | cons => rfl

theorem scanExponentDigits_sound {negative : Bool} {bytes rest : List UInt8}
    {exponent : Option (Bool × List Nat)}
    (h : scanExponentDigits negative bytes = some (exponent, rest)) :
    ∃ digits text, exponent = some (negative, digits) ∧ digits ≠ [] ∧ Decimals digits text ∧
      bytes = text ++ rest := by
  unfold scanExponentDigits at h
  split at h
  next => cases h
  next digits _ hne hscan =>
    cases h
    obtain ⟨text, htext, rfl⟩ := scanDecimals_sound hscan
    refine ⟨digits, text, rfl, ?_, htext, rfl⟩
    rintro rfl
    exact hne rfl

theorem scanExponentDigits_append {negative : Bool} {digits : List Nat} {text rest : List UInt8}
    (h : Decimals digits text) (hne : digits ≠ []) (hrest : NoDecimal rest) :
    scanExponentDigits negative (text ++ rest) = some (some (negative, digits), rest) := by
  rw [scanExponentDigits, scanDecimals_append h hrest]
  cases digits with
  | nil => exact absurd rfl hne
  | cons => rfl

theorem scanExponent_sound {bytes rest : List UInt8} {exponent : Option (Bool × List Nat)}
    (h : scanExponent bytes = some (exponent, rest)) :
    ∃ text, Exponent exponent text ∧ bytes = text ++ rest := by
  unfold scanExponent at h
  split at h
  next mark tail =>
    split at h
    next hmark =>
      split at h
      next =>
        obtain ⟨digits, text, rfl, hne, htext, rfl⟩ := scanExponentDigits_sound h
        exact ⟨mark :: ([0x2B] ++ text), .present hmark .plus htext hne, rfl⟩
      next =>
        obtain ⟨digits, text, rfl, hne, htext, rfl⟩ := scanExponentDigits_sound h
        exact ⟨mark :: ([0x2D] ++ text), .present hmark .minus htext hne, rfl⟩
      next =>
        obtain ⟨digits, text, rfl, hne, htext, rfl⟩ := scanExponentDigits_sound h
        exact ⟨mark :: ([] ++ text), .present hmark .absent htext hne, rfl⟩
    next => cases h; exact ⟨[], .absent, rfl⟩
  next => cases h; exact ⟨[], .absent, rfl⟩

/-- The bytes do not go on with a number. -/
def EndsNumber (bytes : List UInt8) : Prop :=
  ∀ b ∈ bytes.head?, decimal? b = none ∧ b ≠ 0x2E ∧ b ≠ 0x65 ∧ b ≠ 0x45

theorem EndsNumber.noDecimal {bytes : List UInt8} (h : EndsNumber bytes) : NoDecimal bytes :=
  fun b hb => (h b hb).1

theorem noDecimal_cons {b : UInt8} {bytes : List UInt8} (h : decimal? b = none) :
    NoDecimal (b :: bytes) := by
  intro b hb
  cases hb
  exact h

/-- A byte that begins an exponent is no digit and no sign. -/
theorem exponentMark {mark : UInt8} (h : mark = 0x65 ∨ mark = 0x45) :
    decimal? mark = none ∧ mark ≠ 0x2E := by
  rcases h with rfl | rfl <;> decide

theorem scanExponent_plus {mark : UInt8} (h : mark = 0x65 ∨ mark = 0x45) (rest : List UInt8) :
    scanExponent (mark :: 0x2B :: rest) = scanExponentDigits false rest := by
  unfold scanExponent
  exact if_pos h

theorem scanExponent_minus {mark : UInt8} (h : mark = 0x65 ∨ mark = 0x45) (rest : List UInt8) :
    scanExponent (mark :: 0x2D :: rest) = scanExponentDigits true rest := by
  unfold scanExponent
  exact if_pos h

theorem scanExponent_unsigned {mark : UInt8} (h : mark = 0x65 ∨ mark = 0x45) {b : UInt8}
    {digit : Nat} (hdigit : decimal? b = some digit) (rest : List UInt8) :
    scanExponent (mark :: b :: rest) = scanExponentDigits false (b :: rest) := by
  unfold scanExponent
  simp only [if_pos h]
  split
  next heq => cases heq; exact nomatch hdigit
  next heq => cases heq; exact nomatch hdigit
  next => rfl

theorem scanExponent_absent {b : UInt8} (hsmall : b ≠ 0x65) (hcapital : b ≠ 0x45)
    (rest : List UInt8) : scanExponent (b :: rest) = some (none, b :: rest) := by
  unfold scanExponent
  exact if_neg (not_or.mpr ⟨hsmall, hcapital⟩)

theorem scanExponent_append {exponent : Option (Bool × List Nat)} {text : List UInt8}
    (h : Exponent exponent text) {rest : List UInt8} (hrest : EndsNumber rest) :
    scanExponent (text ++ rest) = some (exponent, rest) := by
  cases h with
  | absent =>
      cases rest with
      | nil => rfl
      | cons b rest =>
          obtain ⟨-, -, hsmall, hcapital⟩ := hrest b rfl
          exact scanExponent_absent hsmall hcapital rest
  | @present mark negative sign text digits hmark hsign hdigits hne =>
      cases hsign with
      | plus =>
          exact (scanExponent_plus hmark _).trans
            (scanExponentDigits_append hdigits hne hrest.noDecimal)
      | minus =>
          exact (scanExponent_minus hmark _).trans
            (scanExponentDigits_append hdigits hne hrest.noDecimal)
      | absent =>
          cases hdigits with
          | nil => exact absurd rfl hne
          | cons hdigit htext =>
              exact (scanExponent_unsigned hmark hdigit _).trans
                (scanExponentDigits_append (.cons hdigit htext) hne hrest.noDecimal)

theorem scanNumber_sound {negative : Bool} {bytes rest : List UInt8} {n : JsonNumber}
    (h : scanNumber negative bytes = some (n, rest)) :
    n.negative = negative ∧ ∃ text, Magnitude n text ∧ bytes = text ++ rest := by
  simp only [scanNumber, Option.bind_eq_bind, Option.bind_eq_some_iff, Prod.exists] at h
  obtain ⟨whole, afterWhole, hwhole, fraction, afterFraction, hfraction, exponent, afterExponent,
    hexponent, heq⟩ := h
  cases heq
  obtain ⟨wholeText, hwholeText, rfl⟩ := scanWhole_sound hwhole
  obtain ⟨fractionText, hfractionText, rfl⟩ := scanFraction_sound hfraction
  obtain ⟨exponentText, hexponentText, rfl⟩ := scanExponent_sound hexponent
  refine ⟨rfl, _, .mk hwholeText hfractionText hexponentText, ?_⟩
  rw [List.append_assoc, List.append_assoc]

/-- What follows the digits before the point does not go on with them. -/
theorem noDecimal_fraction {fraction : Option (List Nat)} {exponent : Option (Bool × List Nat)}
    {fractionText exponentText rest : List UInt8} (hfraction : Fraction fraction fractionText)
    (hexponent : Exponent exponent exponentText) (hrest : EndsNumber rest) :
    NoDecimal (fractionText ++ (exponentText ++ rest)) := by
  cases hfraction with
  | present => exact noDecimal_cons rfl
  | absent =>
      cases hexponent with
      | present hmark => exact noDecimal_cons (exponentMark hmark).1
      | absent => exact hrest.noDecimal

theorem noPoint_exponent {exponent : Option (Bool × List Nat)} {text rest : List UInt8}
    (h : Exponent exponent text) (hrest : EndsNumber rest) :
    NoDecimal (text ++ rest) ∧ ∀ b ∈ (text ++ rest).head?, b ≠ 0x2E := by
  cases h with
  | absent => exact ⟨hrest.noDecimal, fun b hb => (hrest b hb).2.1⟩
  | present hmark =>
      refine ⟨noDecimal_cons (exponentMark hmark).1, ?_⟩
      intro b hb
      cases hb
      exact (exponentMark hmark).2

theorem scanNumber_append {n : JsonNumber} {text : List UInt8} (h : Magnitude n text)
    {rest : List UInt8} (hrest : EndsNumber rest) :
    scanNumber n.negative (text ++ rest) = some (n, rest) := by
  cases h with
  | mk hwhole hfraction hexponent =>
      have hpoint := noPoint_exponent hexponent hrest
      simp only [scanNumber, Option.bind_eq_bind, List.append_assoc]
      rw [scanWhole_append hwhole (noDecimal_fraction hfraction hexponent hrest), Option.bind_some,
        scanFraction_append hfraction hpoint.1 hpoint.2, Option.bind_some,
        scanExponent_append hexponent hrest, Option.bind_some]

/-! ## Strings -/

theorem scanPieces_sound {bytes rest : List UInt8} {pieces : List StringPiece}
    (h : scanPieces bytes = some (pieces, rest)) :
    ∃ text, Pieces pieces text ∧ bytes = text ++ 0x22 :: rest := by
  induction bytes using scanPieces.induct generalizing pieces rest with
  | case1 => cases h
  | case2 tail => cases h; exact ⟨[], .nil, rfl⟩
  | case3 a b c d tail hunit => rw [scanPieces, hunit] at h; cases h
  | case4 a b c d tail unit hunit ih =>
      rw [scanPieces, hunit] at h
      obtain ⟨⟨inner, after⟩, hscan, heq⟩ := Option.map_eq_some_iff.mp h
      cases heq
      obtain ⟨text, htext, rfl⟩ := ih hscan
      exact ⟨_, .unicode hunit htext, rfl⟩
  | case5 b tail hshape hunit => rw [scanPieces.eq_4 _ _ hshape, hunit] at h; cases h
  | case6 b tail hshape unit hunit ih =>
      rw [scanPieces.eq_4 _ _ hshape, hunit] at h
      obtain ⟨⟨inner, after⟩, hscan, heq⟩ := Option.map_eq_some_iff.mp h
      cases heq
      obtain ⟨text, htext, rfl⟩ := ih hscan
      exact ⟨_, .short hunit htext, rfl⟩
  | case7 b tail hquote hunicode hescape hcontrol =>
      rw [scanPieces.eq_5 _ _ hquote hunicode hescape, if_pos hcontrol] at h
      cases h
  | case8 b tail hquote hunicode hescape hcontrol ih =>
      rw [scanPieces.eq_5 _ _ hquote hunicode hescape, if_neg hcontrol] at h
      obtain ⟨⟨inner, after⟩, hscan, heq⟩ := Option.map_eq_some_iff.mp h
      cases heq
      have hbackslash : b ≠ 0x5C := by
        -- a backslash at the very end has no closing quote behind it
        intro hb
        cases tail with
        | nil => cases hscan
        | cons next tail => exact hescape next tail hb rfl
      obtain ⟨text, htext, rfl⟩ := ih hscan
      exact ⟨_, .byte hcontrol hquote hbackslash htext, rfl⟩

theorem scanPieces_append {pieces : List StringPiece} {text : List UInt8} (h : Pieces pieces text)
    (rest : List UInt8) : scanPieces (text ++ 0x22 :: rest) = some (pieces, rest) := by
  induction h with
  | nil => rfl
  | @byte b pieces text hcontrol hquote hbackslash _ ih =>
      rw [List.cons_append, scanPieces.eq_5 _ _ hquote, if_neg hcontrol, ih]
      · rfl
      · intro _ _ _ _ _ hb
        exact absurd hb hbackslash
      · intro _ _ hb
        exact absurd hb hbackslash
  | @short b unit pieces text hunit _ ih =>
      rw [List.cons_append, List.cons_append, scanPieces.eq_4, hunit]
      · simp only [ih, Option.map_some]
      · rintro _ _ _ _ _ rfl
        cases hunit
  | unicode hunit _ ih =>
      simp only [List.cons_append]
      rw [scanPieces, hunit]
      simp only [ih, Option.map_some]

theorem scanName_sound {bytes rest : List UInt8} {name : JsonText}
    (h : scanName bytes = some (name, rest)) : ∃ text, Name name text ∧ bytes = text ++ rest := by
  obtain ⟨before, hbefore, heq⟩ := exists_blanks bytes
  unfold scanName at h
  split at h
  next tail hquote =>
    split at h
    next => cases h
    next pieces tail' hpieces =>
      split at h
      next tail'' hcolon =>
        cases h
        obtain ⟨text, htext, rfl⟩ := scanPieces_sound hpieces
        obtain ⟨after, hafter, hafterEq⟩ := exists_blanks tail'
        refine ⟨_, .mk hbefore htext hafter, ?_⟩
        rw [heq, hquote, hafterEq, hcolon]
        simp
      next => cases h
  next => cases h

theorem scanName_append {name : JsonText} {text : List UInt8} (h : Name name text)
    (rest : List UInt8) : scanName (text ++ rest) = some (name, rest) := by
  cases h with
  | @mk pieces before text after hbefore hpieces hafter =>
      have hscan := scanPieces_append hpieces (after ++ 0x3A :: rest)
      simp only [scanName, List.append_assoc, List.cons_append, List.nil_append]
      rw [skipBlanks_append hbefore, skipBlanks_cons rfl]
      simp only [hscan]
      rw [skipBlanks_append hafter, skipBlanks_cons rfl]
      rfl

end SessionTokens.Json
