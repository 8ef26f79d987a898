import SessionTokens.Proofs.Text.Decimal

/-! # Which texts are integers

A reader that checks its range after every digit meets no value on the way that lies farther from
zero than the last one. So what it reads is told by the whole text: digits after at most one sign,
that spell an integer of the range. Any other text is refused for the first problem in it from left
to right, and nothing that follows the problem plays a part. A digit is a problem if it completes a
number beyond the range, even if what comes after it is no digit at all.
-/

namespace SessionTokens.Text

/-- An integer text: digits that spell a number, after at most one sign. -/
inductive SignedNumeral : List Char → Int → Prop
  | unsigned (digits : Numeral text n) : SignedNumeral text n
  | plus (digits : Numeral text n) : SignedNumeral ('+' :: text) n
  | minus (digits : Numeral text n) : SignedNumeral ('-' :: text) (-n)

/-- A magnitude, counted downward when `negative`. -/
def signed (negative : Bool) (magnitude : Nat) : Int := if negative then -magnitude else magnitude

/-- A text without its sign, and whether what is left counts downward. A minus is no sign where no
negative value fits. -/
inductive WithoutSign (bounds : IntegerBounds) : List Char → Bool → List Char → Prop
  | plus : WithoutSign bounds ('+' :: rest) false rest
  | minus (hleast : bounds.least < 0) : WithoutSign bounds ('-' :: rest) true rest
  | bare (hplus : text.head? ≠ some '+') (hminus : text.head? = some '-' → ¬ bounds.least < 0) :
      WithoutSign bounds text false text

/-- Digits that spell a magnitude of the range, as no digits do. -/
structure DigitsFit (bounds : IntegerBounds) (negative : Bool) (digits : List Char) : Prop where
  areDigits : ∀ c ∈ digits, isDigit c = true
  inRange : bounds.contains (signed negative (decimalValue digits)) = true

/-- What is wrong with a character that follows digits. -/
inductive ProblemAfter (bounds : IntegerBounds) (negative : Bool) (digits : List Char) (c : Char) :
    IntegerError → Prop
  | invalidDigit (hdigit : isDigit c = false) : ProblemAfter bounds negative digits c .invalidDigit
  | tooLarge (hdigit : isDigit c = true)
      (habove : bounds.greatest < signed negative (decimalValue (digits ++ [c]))) :
      ProblemAfter bounds negative digits c .tooLarge
  | tooSmall (hdigit : isDigit c = true)
      (hbelow : signed negative (decimalValue (digits ++ [c])) < bounds.least) :
      ProblemAfter bounds negative digits c .tooSmall

/-- The first problem of a text from left to right: that there is nothing, that nothing follows a
sign, or what is wrong with the first character after digits that fit. -/
inductive FirstProblem (bounds : IntegerBounds) : List Char → IntegerError → Prop
  | empty : FirstProblem bounds [] .empty
  | loneSign (hsign : WithoutSign bounds text negative []) (hnonempty : text ≠ []) :
      FirstProblem bounds text .invalidDigit
  | character (hsign : WithoutSign bounds text negative (digits ++ c :: rest))
      (hfit : DigitsFit bounds negative digits)
      (hproblem : ProblemAfter bounds negative digits c problem) :
      FirstProblem bounds text problem

namespace SignedNumeral

variable {text : List Char} {value : Int}

theorem plus_iff : SignedNumeral ('+' :: text) value ↔ ∃ n : Nat, Numeral text n ∧ n = value := by
  constructor
  · rintro (digits | digits | digits)
    · exact absurd (digits.isDigit '+' List.mem_cons_self) (by decide)
    · exact ⟨_, digits, rfl⟩
  · rintro ⟨n, digits, rfl⟩
    exact .plus digits

theorem minus_iff : SignedNumeral ('-' :: text) value ↔ ∃ n : Nat, Numeral text n ∧ -n = value := by
  constructor
  · rintro (digits | digits | digits)
    · exact absurd (digits.isDigit '-' List.mem_cons_self) (by decide)
    · exact ⟨_, digits, rfl⟩
  · rintro ⟨n, digits, rfl⟩
    exact .minus digits

theorem unsigned_iff {c : Char} (hplus : c ≠ '+') (hminus : c ≠ '-') :
    SignedNumeral (c :: text) value ↔ ∃ n : Nat, Numeral (c :: text) n ∧ n = value := by
  constructor
  · rintro (digits | digits | digits)
    · exact ⟨_, digits, rfl⟩
    · exact absurd rfl hplus
    · exact absurd rfl hminus
  · rintro ⟨n, digits, rfl⟩
    exact .unsigned digits

theorem eq_of_digits {n : Nat} (h : SignedNumeral text value) (hdigits : Numeral text n) :
    value = n := by
  cases h with
  | unsigned digits => rw [← digits.value, ← hdigits.value]
  | plus digits => exact absurd (hdigits.isDigit '+' List.mem_cons_self) (by decide)
  | minus digits => exact absurd (hdigits.isDigit '-' List.mem_cons_self) (by decide)

end SignedNumeral

theorem appendDigit_signed (negative : Bool) (value digit : Nat) :
    appendDigit negative (signed negative value) digit = signed negative (value * 10 + digit) := by
  cases negative with
  | false => simp [appendDigit, signed]
  | true =>
      simp only [appendDigit, signed, if_true]
      omega

variable {bounds : IntegerBounds} {negative : Bool} {text digits more rest : List Char} {c : Char}
  {value result : Int} {problem : IntegerError}

/-! ## Digits and the character after them -/

theorem contains_signed_of_le (hzero : bounds.contains 0 = true) {m n : Nat} (hle : m ≤ n)
    (h : bounds.contains (signed negative n) = true) :
    bounds.contains (signed negative m) = true := by
  rw [IntegerBounds.contains_iff] at hzero h ⊢
  cases negative <;> simp [signed] at h ⊢ <;> omega

theorem le_foldl_digits (digits : List Nat) (value : Nat) :
    value ≤ digits.foldl (· * 10 + ·) value := by
  induction digits generalizing value with
  | nil => exact Nat.le_refl value
  | cons digit digits ih =>
      have := ih (value * 10 + digit)
      rw [List.foldl_cons]
      omega

theorem decimalValue_le_append (digits more : List Char) :
    decimalValue digits ≤ decimalValue (digits ++ more) := by
  unfold decimalValue valueIn
  rw [List.filterMap_append, List.foldl_append]
  exact le_foldl_digits _ _

theorem decimalValue_append_digit {digit : Nat} (h : digitValue? c = some digit) :
    decimalValue (digits ++ [c]) = decimalValue digits * 10 + digit := by
  rw [decimalValue, List.filterMap_append, List.filterMap_cons_some h, List.filterMap_nil,
    valueIn_append, decimalValue]

theorem digitValue?_of_isDigit (h : isDigit c = true) : ∃ digit, digitValue? c = some digit :=
  Option.isSome_iff_exists.mp h

theorem digitsFit_nil (hzero : bounds.contains 0 = true) : DigitsFit bounds negative [] where
  areDigits := List.forall_mem_nil _
  inRange := by cases negative <;> exact hzero

theorem DigitsFit.of_append (hzero : bounds.contains 0 = true)
    (h : DigitsFit bounds negative (digits ++ more)) : DigitsFit bounds negative digits where
  areDigits c hmem := h.areDigits c (List.mem_append_left more hmem)
  inRange := contains_signed_of_le hzero (decimalValue_le_append digits more) h.inRange

/-- Digits that fit are read, and what follows them is read on from what they spell. -/
theorem DigitsFit.readDigits_append (hzero : bounds.contains 0 = true)
    (h : DigitsFit bounds negative (digits ++ more)) (rest : List Char) :
    readDigits bounds negative (signed negative (decimalValue digits)) (more ++ rest) =
      readDigits bounds negative (signed negative (decimalValue (digits ++ more))) rest := by
  induction more generalizing digits with
  | nil => rw [List.nil_append, List.append_nil]
  | cons c more ih =>
      rw [List.append_cons] at h ⊢
      have hnext := h.of_append hzero
      obtain ⟨digit, hdigit⟩ := digitValue?_of_isDigit (hnext.areDigits c (by simp))
      obtain ⟨hleast, hgreatest⟩ := IntegerBounds.contains_iff.mp hnext.inRange
      simp only [List.cons_append, readDigits, hdigit, appendDigit_signed,
        ← decimalValue_append_digit hdigit, if_neg (Int.not_lt.mpr hgreatest),
        if_neg (Int.not_lt.mpr hleast)]
      exact ih h

theorem ProblemAfter.readDigits_cons (hzero : bounds.contains 0 = true)
    (h : ProblemAfter bounds negative digits c problem) (rest : List Char) :
    readDigits bounds negative (signed negative (decimalValue digits)) (c :: rest) =
      .error problem := by
  obtain ⟨hleast, hgreatest⟩ := IntegerBounds.contains_iff.mp hzero
  cases h with
  | invalidDigit hdigit =>
      have hnone : digitValue? c = none :=
        Option.isNone_iff_eq_none.mp (Option.isSome_eq_false_iff.mp hdigit)
      simp only [readDigits, hnone]
  | tooLarge hdigit habove =>
      obtain ⟨digit, hdigit⟩ := digitValue?_of_isDigit hdigit
      simp only [readDigits, hdigit, appendDigit_signed, ← decimalValue_append_digit hdigit,
        if_pos habove]
  | tooSmall hdigit hbelow =>
      obtain ⟨digit, hdigit⟩ := digitValue?_of_isDigit hdigit
      have habove : ¬ bounds.greatest < signed negative (decimalValue (digits ++ [c])) := by omega
      simp only [readDigits, hdigit, appendDigit_signed, ← decimalValue_append_digit hdigit,
        if_neg habove, if_pos hbelow]

theorem DigitsFit.append_or_problem (h : DigitsFit bounds negative digits) (c : Char) :
    DigitsFit bounds negative (digits ++ [c]) ∨
      ∃ problem, ProblemAfter bounds negative digits c problem := by
  cases hdigit : isDigit c with
  | false => exact .inr ⟨_, .invalidDigit hdigit⟩
  | true =>
      by_cases habove : bounds.greatest < signed negative (decimalValue (digits ++ [c]))
      · exact .inr ⟨_, .tooLarge hdigit habove⟩
      by_cases hbelow : signed negative (decimalValue (digits ++ [c])) < bounds.least
      · exact .inr ⟨_, .tooSmall hdigit hbelow⟩
      refine .inl ⟨?_, IntegerBounds.contains_iff.mpr ⟨Int.not_lt.mp hbelow, Int.not_lt.mp habove⟩⟩
      intro other hmem
      rcases List.mem_append.mp hmem with hold | hnew
      · exact h.areDigits other hold
      · rw [List.mem_singleton.mp hnew]
        exact hdigit

/-- A text after digits that fit goes on with digits that fit, to its end or to a problem. -/
theorem DigitsFit.all_or_problem (h : DigitsFit bounds negative digits) (text : List Char) :
    DigitsFit bounds negative (digits ++ text) ∨
      ∃ more c rest problem, text = more ++ c :: rest ∧
        DigitsFit bounds negative (digits ++ more) ∧
        ProblemAfter bounds negative (digits ++ more) c problem := by
  induction text generalizing digits with
  | nil => exact .inl (by rwa [List.append_nil])
  | cons c rest ih =>
      rcases h.append_or_problem c with hnext | ⟨problem, hproblem⟩
      · rcases ih hnext with hall | ⟨more, d, after, problem, rfl, hmore, hproblem⟩
        · exact .inl (by rwa [List.append_cons])
        · rw [← List.append_cons] at hmore hproblem
          exact .inr ⟨c :: more, d, after, problem, rfl, hmore, hproblem⟩
      · refine .inr ⟨[], c, rest, problem, rfl, ?_, ?_⟩
        · rwa [List.append_nil]
        · rwa [List.append_nil]

/-! ## Magnitudes -/

theorem digitsFit_or_problem (hzero : bounds.contains 0 = true) (negative : Bool)
    (text : List Char) :
    DigitsFit bounds negative text ∨
      ∃ digits c rest problem, text = digits ++ c :: rest ∧ DigitsFit bounds negative digits ∧
        ProblemAfter bounds negative digits c problem := by
  simpa only [List.nil_append] using (digitsFit_nil hzero).all_or_problem text

theorem readMagnitude_eq_readDigits (hnonempty : text ≠ []) :
    readMagnitude bounds negative text =
      readDigits bounds negative (signed negative (decimalValue [])) text := by
  have hstart : signed negative (decimalValue []) = 0 := by cases negative <;> rfl
  cases text with
  | nil => exact absurd rfl hnonempty
  | cons c rest => rw [hstart, readMagnitude]

theorem readMagnitude_of_fit (hzero : bounds.contains 0 = true)
    (hfit : DigitsFit bounds negative text) (hnonempty : text ≠ []) :
    readMagnitude bounds negative text = .ok (signed negative (decimalValue text)) := by
  have hread : DigitsFit bounds negative ([] ++ text) := hfit
  have heq := hread.readDigits_append hzero []
  rw [List.append_nil, List.nil_append] at heq
  rw [readMagnitude_eq_readDigits hnonempty, heq, readDigits]

/-- A character that is a problem after digits that fit is what a magnitude is refused for. -/
theorem readMagnitude_append_cons (hzero : bounds.contains 0 = true)
    (hfit : DigitsFit bounds negative digits)
    (hproblem : ProblemAfter bounds negative digits c problem) (rest : List Char) :
    readMagnitude bounds negative (digits ++ c :: rest) = .error problem := by
  have hnonempty : digits ++ c :: rest ≠ [] := by simp
  have hread : DigitsFit bounds negative ([] ++ digits) := hfit
  have heq := hread.readDigits_append hzero (c :: rest)
  rw [readMagnitude_eq_readDigits hnonempty, heq, List.nil_append, hproblem.readDigits_cons hzero]

theorem readMagnitude_eq_error_iff (hzero : bounds.contains 0 = true) :
    readMagnitude bounds negative text = .error problem ↔
      (text = [] ∧ problem = .invalidDigit) ∨
      ∃ digits c rest, text = digits ++ c :: rest ∧ DigitsFit bounds negative digits ∧
        ProblemAfter bounds negative digits c problem := by
  constructor
  · intro hread
    by_cases hnonempty : text = []
    · subst hnonempty
      cases hread
      exact .inl ⟨rfl, rfl⟩
    rcases digitsFit_or_problem hzero negative text with
      hall | ⟨digits, c, rest, found, rfl, hfit, hproblem⟩
    · rw [readMagnitude_of_fit hzero hall hnonempty] at hread
      cases hread
    · rw [readMagnitude_append_cons hzero hfit hproblem] at hread
      cases hread
      exact .inr ⟨digits, c, rest, rfl, hfit, hproblem⟩
  · rintro (⟨rfl, rfl⟩ | ⟨digits, c, rest, rfl, hfit, hproblem⟩)
    · rfl
    · exact readMagnitude_append_cons hzero hfit hproblem rest

theorem readMagnitude_eq_ok_iff (hzero : bounds.contains 0 = true) :
    readMagnitude bounds negative text = .ok result ↔
      ∃ n, Numeral text n ∧ signed negative n = result ∧ bounds.contains result = true := by
  constructor
  · intro hread
    rcases digitsFit_or_problem hzero negative text with
      hall | ⟨digits, c, rest, problem, rfl, hfit, hproblem⟩
    · have hnonempty : text ≠ [] := by
        rintro rfl
        cases hread
      rw [readMagnitude_of_fit hzero hall hnonempty] at hread
      cases hread
      exact ⟨_, ⟨hnonempty, hall.areDigits, rfl⟩, rfl, hall.inRange⟩
    · rw [readMagnitude_append_cons hzero hfit hproblem] at hread
      cases hread
  · rintro ⟨n, ⟨hnonempty, hdigits, rfl⟩, rfl, hrange⟩
    exact readMagnitude_of_fit hzero ⟨hdigits, hrange⟩ hnonempty

/-! ## Integer texts -/

/-- A text is read as an integer exactly if it is an integer text of one in the range; and a range
without negative values takes no minus sign. -/
theorem readInteger_eq_ok_iff (hzero : bounds.contains 0 = true) :
    readInteger bounds text = .ok value ↔
      SignedNumeral text value ∧ bounds.contains value = true ∧
        (text.head? = some '-' → bounds.least < 0) := by
  fun_cases readInteger bounds text with
  | case1 =>
      refine iff_of_false nofun fun ⟨hnumeral, _⟩ => ?_
      cases hnumeral with
      | unsigned digits => exact digits.nonempty rfl
  | case2 rest =>
      rw [readMagnitude_eq_ok_iff hzero, SignedNumeral.plus_iff]
      simp [signed, ← and_assoc]
  | case3 rest hleast =>
      rw [readMagnitude_eq_ok_iff hzero, SignedNumeral.minus_iff]
      simp [signed, hleast, ← and_assoc]
  | case4 rest hleast => exact iff_of_false nofun fun ⟨_, _, hminus⟩ => hleast (hminus rfl)
  | case5 c rest hplus hminus =>
      rw [readMagnitude_eq_ok_iff hzero, SignedNumeral.unsigned_iff hplus hminus]
      have hhead : (c :: rest).head? ≠ some '-' := fun heq => hminus (Option.some.inj heq)
      simp only [hhead, false_implies, and_true]
      simp [signed, ← and_assoc]

theorem signedNumeral_intDigits (value : Int) : SignedNumeral (intDigits value) value := by
  unfold intDigits
  split
  next hnegative =>
    have hvalue : -(value.natAbs : Int) = value := by omega
    exact SignedNumeral.minus_iff.mpr ⟨value.natAbs, numeral_natDigits value.natAbs, hvalue⟩
  next hpositive =>
    have hvalue : (value.natAbs : Int) = value := by omega
    rw [← hvalue, Int.natAbs_natCast]
    exact .unsigned (numeral_natDigits value.natAbs)

/-- The decimal text of an integer is read as that integer by every reader of its range. -/
theorem readInteger_intDigits (hzero : bounds.contains 0 = true)
    (hvalue : bounds.contains value = true) : readInteger bounds (intDigits value) = .ok value := by
  refine (readInteger_eq_ok_iff hzero).mpr ⟨signedNumeral_intDigits value, hvalue, ?_⟩
  intro hminus
  have hleast := (IntegerBounds.contains_iff.mp hvalue).1
  unfold intDigits at hminus
  split at hminus
  next hnegative => exact Int.lt_of_le_of_lt hleast hnegative
  next hpositive =>
    have hdigit := (numeral_natDigits _).isDigit '-' (List.mem_of_head? hminus)
    exact absurd hdigit (by decide)

/-- The digits of a number beyond the range are read by no reader of the range. -/
theorem readInteger_natDigits_ne_ok {n : Nat} (hzero : bounds.contains 0 = true)
    (h : bounds.greatest < n) (value : Int) : readInteger bounds (natDigits n) ≠ .ok value := by
  intro hread
  obtain ⟨hnumeral, hvalue, -⟩ := (readInteger_eq_ok_iff hzero).mp hread
  have heq := hnumeral.eq_of_digits (numeral_natDigits n)
  have hle := (IntegerBounds.contains_iff.mp hvalue).2
  omega

/-! ## The first problem of a text -/

theorem exists_withoutSign (bounds : IntegerBounds) (text : List Char) :
    ∃ negative rest, WithoutSign bounds text negative rest := by
  by_cases hplus : text.head? = some '+'
  · obtain ⟨rest, rfl⟩ := List.head?_eq_some_iff.mp hplus
    exact ⟨false, rest, .plus⟩
  by_cases hminus : text.head? = some '-' ∧ bounds.least < 0
  · obtain ⟨rest, rfl⟩ := List.head?_eq_some_iff.mp hminus.1
    exact ⟨true, rest, .minus hminus.2⟩
  · exact ⟨false, text, .bare hplus (not_and.mp hminus)⟩

theorem WithoutSign.readInteger_eq (h : WithoutSign bounds text negative rest)
    (hnonempty : text ≠ []) : readInteger bounds text = readMagnitude bounds negative rest := by
  cases h with
  | plus => rfl
  | minus hleast => rw [readInteger, if_pos hleast]
  | bare hplus hminus =>
      fun_cases readInteger bounds text with
      | case1 => exact absurd rfl hnonempty
      | case2 rest => exact absurd rfl hplus
      | case3 rest hleast => exact absurd hleast (hminus rfl)
      | case4 rest hleast => rfl
      | case5 c rest => rfl

theorem WithoutSign.nonempty (h : WithoutSign bounds text negative (digits ++ c :: rest)) :
    text ≠ [] := by
  rintro rfl
  generalize hleft : digits ++ c :: rest = left at h
  cases h
  simp at hleft

/-- A text is refused as an integer exactly for the first problem in it. -/
theorem readInteger_eq_error_iff (hzero : bounds.contains 0 = true) :
    readInteger bounds text = .error problem ↔ FirstProblem bounds text problem := by
  constructor
  · intro hread
    by_cases hnonempty : text = []
    · subst hnonempty
      cases hread
      exact .empty
    obtain ⟨negative, rest, hsign⟩ := exists_withoutSign bounds text
    rw [hsign.readInteger_eq hnonempty, readMagnitude_eq_error_iff hzero] at hread
    rcases hread with ⟨rfl, rfl⟩ | ⟨digits, c, after, rfl, hfit, hproblem⟩
    · exact .loneSign hsign hnonempty
    · exact .character hsign hfit hproblem
  · intro h
    cases h with
    | empty => rfl
    | loneSign hsign hnonempty =>
        rw [hsign.readInteger_eq hnonempty]
        rfl
    | character hsign hfit hproblem =>
        rw [hsign.readInteger_eq hsign.nonempty]
        exact readMagnitude_append_cons hzero hfit hproblem _

end SessionTokens.Text
