import SessionTokens.Config.Setting
import SessionTokens.Proofs.Text.Integer

/-! # Texts that are read as values and written again

A text is read as a truth value, else as an integer, else as a floating-point number, and as itself
otherwise. Where a text is wanted, the value is written, and only a text that is spelled as its value
is written comes back unchanged.
-/

namespace SessionTokens

open Number Text

/-! ## Texts of numbers -/

theorem Number.Decimal.toText_ne_nil (d : Decimal) : d.toText ≠ [] := by
  unfold Decimal.toText
  simp only
  split
  next => exact List.cons_ne_nil _ _
  next hpoint =>
    split
    next =>
      intro hnil
      obtain ⟨hdigits, hzeros⟩ := List.append_eq_nil_iff.mp hnil
      rw [hdigits, List.length_nil, Nat.sub_zero, List.replicate_eq_nil_iff] at hzeros
      omega
    next => simp

theorem Number.Binary64.toText_ne_nil (x : Binary64) : x.toText ≠ [] := by
  cases x with
  | nan => exact List.cons_ne_nil _ _
  | infinite negative => simp [Binary64.toText]
  | finite negative significand exponent =>
      intro hnil
      have hmagnitude := (List.append_eq_nil_iff.mp hnil).2
      split at hmagnitude
      next => cases hmagnitude
      next => exact Decimal.toText_ne_nil _ hmagnitude

theorem Text.intDigits_ne_nil (n : Int) : intDigits n ≠ [] := by
  have hdigits := (numeral_natDigits n.natAbs).nonempty
  unfold intDigits
  split
  · exact List.cons_ne_nil _ _
  · exact hdigits

namespace Number

theorem takeDigits_map_digitChar {digits : List Nat} (h : ∀ digit ∈ digits, digit < 10) :
    takeDigits (digits.map digitChar) = (digits, []) := by
  induction digits with
  | nil => rfl
  | cons digit digits ih =>
      have hdigit := digitValue?_digitChar digit (h digit List.mem_cons_self)
      rw [List.map_cons, takeDigits]
      simp only [hdigit, ih fun d hd => h d (List.mem_cons_of_mem _ hd)]

theorem foldAscii_digitChar : ∀ digit < 10, foldAscii (digitChar digit) = digitChar digit := by
  decide

theorem readBinary64_natDigits (n : Nat) :
    readBinary64 (natDigits n) = some (.ofDecimal false n 0) := by
  obtain ⟨first, rest, htext, hdigits, hspells, -⟩ := exists_natDigits n
  have hfirst := hdigits first List.mem_cons_self
  have hsign : takeSign ((first :: rest).map digitChar) =
      (false, (first :: rest).map digitChar) := by
    obtain ⟨hplus, hminus⟩ := digitChar_ne_sign first hfirst
    exact takeSign.eq_3 _ (fun _ h => hplus (List.cons.inj h).1)
      (fun _ h => hminus (List.cons.inj h).1)
  have hword (word : String) (hhead : ∀ digit < 10, word.toList.head? ≠ some (digitChar digit)) :
      String.ofList (((first :: rest).map digitChar).map foldAscii) ≠ word := by
    rintro rfl
    refine hhead first hfirst ?_
    rw [String.toList_ofList, List.map_cons, List.map_cons, List.head?_cons,
      foldAscii_digitChar first hfirst]
  have hinf := hword "inf" (by decide)
  have hinfinity := hword "infinity" (by decide)
  have hnan := hword "nan" (by decide)
  rw [htext, readBinary64, hsign]
  simp only
  rw [if_neg (not_or.mpr ⟨hinf, hinfinity⟩), if_neg hnan, readDecimal,
    takeDigits_map_digitChar hdigits]
  simp [readExponent, hspells]

end Number

namespace Setting

/-! ## What a text is read as -/

/-- How truth values are written. -/
def flagText (value : Bool) : String := if value then "true" else "false"

/-- A text that is no truth value in any case. -/
def NoFlag (value : String) : Prop := ∀ b, String.ofList (fold value.toList) ≠ flagText b

/-- A text that is no integer. -/
def NoInteger (value : String) : Prop := ∀ n, readInteger .signed64 value.toList ≠ .ok n

/-- What a text is read as: a truth value, or else an integer, or else a floating-point number, or
else the text that it is. -/
inductive IsReadAs (value : String) : Setting → Prop
  | flag (b : Bool) : String.ofList (fold value.toList) = flagText b → IsReadAs value (.flag b)
  | integer (n : Int) : NoFlag value → readInteger .signed64 value.toList = .ok n →
      IsReadAs value (.integer n)
  | real (x : Binary64) : NoFlag value → NoInteger value → readBinary64 value.toList = some x →
      IsReadAs value (.real x)
  | text : NoFlag value → NoInteger value → readBinary64 value.toList = none →
      IsReadAs value (.text value)

theorem ofText_isReadAs (value : String) : IsReadAs value (ofText value) := by
  unfold ofText
  split
  next htrue => exact .flag true htrue
  next hfalse => exact .flag false hfalse
  next htrue hfalse =>
    have hflag : NoFlag value := by
      intro b
      cases b with
      | true => exact htrue
      | false => exact hfalse
    split
    next n hn => exact .integer n hflag hn
    next problem hproblem =>
      have hinteger : NoInteger value := by
        intro n hn
        rw [hproblem] at hn
        cases hn
      split
      next x hx => exact .real x hflag hinteger hx
      next hnone => exact .text hflag hinteger hnone

/-- What a text becomes when it is read and written as a text again. -/
def respelled (value : String) : String := (ofText value).toText?.getD value

theorem IsReadAs.exists_toText? {value : String} {setting : Setting} (h : IsReadAs value setting) :
    ∃ text, setting.toText? = some text := by
  cases h <;> exact ⟨_, rfl⟩

theorem toText?_ofText (value : String) : (ofText value).toText? = some (respelled value) := by
  obtain ⟨text, htext⟩ := (ofText_isReadAs value).exists_toText?
  rw [respelled, htext, Option.getD_some]

theorem ofList_ne_empty {text : List Char} (h : text ≠ []) : String.ofList text ≠ "" := by
  intro heq
  exact h (String.ofList_injective (heq.trans String.ofList_nil.symm))

theorem IsReadAs.toText?_ne_empty {value text : String} {setting : Setting}
    (h : IsReadAs value setting) (hvalue : value ≠ "") (htext : setting.toText? = some text) :
    text ≠ "" := by
  cases h with
  | flag b =>
      cases htext
      cases b <;> decide
  | integer n =>
      cases htext
      exact ofList_ne_empty (intDigits_ne_nil n)
  | real x =>
      cases htext
      exact ofList_ne_empty x.toText_ne_nil
  | text =>
      cases htext
      exact hvalue

theorem respelled_ne_empty {value : String} (h : value ≠ "") : respelled value ≠ "" :=
  (ofText_isReadAs value).toText?_ne_empty h (toText?_ofText value)

/-- A text is spelled as whatever it is read as is written. -/
structure IsOwnSpelling (value : String) : Prop where
  flag : ∀ b, String.ofList (fold value.toList) = flagText b → value = flagText b
  integer : ∀ n, readInteger .signed64 value.toList = .ok n → value = String.ofList (intDigits n)
  real : NoFlag value → NoInteger value →
    ∀ x, readBinary64 value.toList = some x → value = String.ofList x.toText

theorem flagText_injective {b c : Bool} (h : flagText b = flagText c) : b = c := by
  revert b c
  decide

theorem flagText_noInteger (b : Bool) : NoInteger (flagText b) := by
  intro n hn
  cases b <;> cases hn

theorem IsReadAs.toText?_eq_self_iff {value : String} {setting : Setting}
    (h : IsReadAs value setting) : setting.toText? = some value ↔ IsOwnSpelling value := by
  constructor
  · intro htext
    -- the one way of reading that applies writes the text; the others do not apply to it
    cases h with
    | flag b hflag =>
        have hvalue : flagText b = value := Option.some.inj htext
        refine ⟨fun c hc => ?_, fun n hn => ?_, fun hnone => ?_⟩
        · rw [← flagText_injective (hflag.symm.trans hc), hvalue]
        · rw [← hvalue] at hn
          exact absurd hn (flagText_noInteger b n)
        · exact absurd hflag (hnone b)
    | integer n hnone hn =>
        have hvalue : String.ofList (intDigits n) = value := Option.some.inj htext
        refine ⟨fun b hb => absurd hb (hnone b), fun m hm => ?_, fun _ hno => absurd hn (hno n)⟩
        rw [hn] at hm
        cases hm
        exact hvalue.symm
    | real x hnone hno hx =>
        have hvalue : String.ofList x.toText = value := Option.some.inj htext
        refine ⟨fun b hb => absurd hb (hnone b), fun n hn => absurd hn (hno n), fun _ _ y hy => ?_⟩
        rw [hx] at hy
        cases hy
        exact hvalue.symm
    | text hnone hno htextual =>
        refine ⟨fun b hb => absurd hb (hnone b), fun n hn => absurd hn (hno n), fun _ _ y hy => ?_⟩
        rw [htextual] at hy
        cases hy
  · intro hown
    cases h with
    | flag b hflag => exact congrArg some (hown.flag b hflag).symm
    | integer n _ hn => exact congrArg some (hown.integer n hn).symm
    | real x hnone hno hx => exact congrArg some (hown.real hnone hno x hx).symm
    | text => rfl

/-- A text is respelled as itself exactly if it is its own spelling. -/
theorem respelled_eq_self_iff {value : String} : respelled value = value ↔ IsOwnSpelling value := by
  rw [← (ofText_isReadAs value).toText?_eq_self_iff, toText?_ofText, Option.some.injEq]

/-! ## Texts of integers -/

theorem noFlag_of_head {c : Char} {rest : List Char}
    (h : ∀ b, (flagText b).toList.head? ≠ some (foldChar c)) :
    NoFlag (String.ofList (c :: rest)) := by
  intro b heq
  refine h b ?_
  rw [← heq, String.toList_ofList, String.toList_ofList]
  rfl

theorem noFlag_intDigits (n : Int) : NoFlag (String.ofList (intDigits n)) := by
  obtain ⟨first, rest, htext, hdigits, -⟩ := exists_natDigits n.natAbs
  have hdigit : ∀ digit < 10, ∀ b,
      (flagText b).toList.head? ≠ some (foldChar (digitChar digit)) := by decide
  rw [intDigits, htext]
  split
  · exact noFlag_of_head (by decide)
  · exact noFlag_of_head (hdigit first (hdigits first List.mem_cons_self))

theorem ofText_intDigits {n : Int} (h : IntegerBounds.signed64.contains n = true) :
    ofText (String.ofList (intDigits n)) = .integer n := by
  have hread : readInteger .signed64 (String.ofList (intDigits n)).toList = .ok n := by
    rw [String.toList_ofList]
    exact readInteger_intDigits (by decide) h
  have hflag := noFlag_intDigits n
  have hform := ofText_isReadAs (String.ofList (intDigits n))
  generalize ofText (String.ofList (intDigits n)) = setting at hform
  cases hform with
  | flag b hb => exact absurd hb (hflag b)
  | integer m _ hm => rw [Except.ok.inj (hread.symm.trans hm)]
  | real x _ hnone => exact absurd hread (hnone n)
  | text _ hnone => exact absurd hread (hnone n)

theorem ofText_natDigits {n : Nat} (h : IntegerBounds.signed64.greatest < n) :
    ofText (String.ofList (natDigits n)) = .real (.ofDecimal false n 0) := by
  have hreal : readBinary64 (String.ofList (natDigits n)).toList = some (.ofDecimal false n 0) := by
    rw [String.toList_ofList, readBinary64_natDigits]
  have hflag := noFlag_intDigits n
  rw [intDigits_natCast] at hflag
  have hform := ofText_isReadAs (String.ofList (natDigits n))
  generalize ofText (String.ofList (natDigits n)) = setting at hform
  cases hform with
  | flag b hb => exact absurd hb (hflag b)
  | integer m _ hm =>
      rw [String.toList_ofList] at hm
      exact absurd hm (readInteger_natDigits_ne_ok (by decide) h m)
  | real x _ _ hx => rw [Option.some.inj (hreal.symm.trans hx)]
  | text _ _ hnone => exact absurd (hreal.symm.trans hnone) nofun

end Setting

end SessionTokens
