import SessionTokens.Text.Integer

/-! # Decimal text spells its number

The digits of a number are described once, by their values.
-/

namespace SessionTokens.Text

theorem digitValue?_digitChar : ∀ digit < 10, digitValue? (digitChar digit) = some digit := by
  decide

theorem valueIn_append (base digit : Nat) (digits : List Nat) :
    valueIn base (digits ++ [digit]) = valueIn base digits * base + digit := by
  rw [valueIn, List.foldl_append]
  rfl

/-- The digits of a number: they spell it, and none that leads is a zero. -/
theorem exists_natDigits (n : Nat) :
    ∃ first rest, natDigits n = (first :: rest).map digitChar ∧
      (∀ digit ∈ first :: rest, digit < 10) ∧ valueIn 10 (first :: rest) = n ∧
        (first = 0 → n = 0) := by
  induction n using Nat.strongRecOn with
  | ind n ih =>
      rw [natDigits]
      split
      next hsmall =>
        refine ⟨n, [], rfl, ?_, by simp [valueIn], id⟩
        intro digit hdigit
        rw [List.mem_singleton.mp hdigit]
        exact hsmall
      next hlarge =>
        obtain ⟨first, rest, htext, hdigits, hvalue, hlead⟩ := ih (n / 10) (by omega)
        refine ⟨first, rest ++ [n % 10], by rw [htext]; simp, ?_, ?_, ?_⟩
        · intro digit hdigit
          rw [← List.cons_append, List.mem_append, List.mem_singleton] at hdigit
          rcases hdigit with h | rfl
          · exact hdigits digit h
          · exact Nat.mod_lt n (by omega)
        · rw [← List.cons_append, valueIn_append, hvalue]
          omega
        · intro hzero
          have := hlead hzero
          omega

theorem digitChar_ne_sign : ∀ digit < 10, digitChar digit ≠ '+' ∧ digitChar digit ≠ '-' := by
  decide

theorem intDigits_natCast (n : Nat) : intDigits n = natDigits n := by
  rw [intDigits, if_neg (by omega), Int.natAbs_natCast]

/-! ## Digits that spell a number -/

/-- A text of digits that spell a number. -/
structure Numeral (text : List Char) (n : Nat) : Prop where
  nonempty : text ≠ []
  isDigit : ∀ c ∈ text, isDigit c = true
  value : decimalValue text = n

theorem isDigit_digitChar : ∀ digit < 10, isDigit (digitChar digit) = true := by decide

theorem filterMap_digitValue? {digits : List Nat} (h : ∀ digit ∈ digits, digit < 10) :
    (digits.map digitChar).filterMap digitValue? = digits := by
  induction digits with
  | nil => rfl
  | cons digit digits ih =>
      have hdigit := digitValue?_digitChar digit (h digit List.mem_cons_self)
      rw [List.map_cons, List.filterMap_cons, hdigit]
      simp only [ih fun d hd => h d (List.mem_cons_of_mem _ hd)]

theorem numeral_natDigits (n : Nat) : Numeral (natDigits n) n := by
  obtain ⟨first, rest, htext, hdigits, hvalue, -⟩ := exists_natDigits n
  rw [htext]
  refine ⟨by simp, ?_, ?_⟩
  · intro c hc
    obtain ⟨digit, hdigit, rfl⟩ := List.mem_map.mp hc
    exact isDigit_digitChar digit (hdigits digit hdigit)
  · rw [decimalValue, filterMap_digitValue? hdigits, hvalue]

theorem Numeral.zeroPadded {text : List Char} {n : Nat} (h : Numeral text n) (width : Nat) :
    Numeral (zeroPadded width text) n := by
  unfold Text.zeroPadded
  generalize width - text.length = missing
  induction missing with
  | zero => exact h
  | succ missing ih =>
      rw [List.replicate_succ, List.cons_append]
      refine ⟨by simp, ?_, ih.value⟩
      rintro c (_ | ⟨_, hc⟩)
      · rfl
      · exact ih.isDigit c hc

theorem length_natDigits_le {width n : Nat} (h : n < Nat.pow 10 (width + 1)) :
    (natDigits n).length ≤ width + 1 := by
  induction width generalizing n with
  | zero =>
      have hone : Nat.pow 10 (0 + 1) = 10 := rfl
      rw [natDigits, if_pos (hone ▸ h)]
      exact Nat.le_refl 1
  | succ width ih =>
      rw [natDigits]
      split
      · simp
      · have hpow : Nat.pow 10 (width + 1 + 1) = Nat.pow 10 (width + 1) * 10 := rfl
        have hle := ih (n := n / 10) (by omega)
        rw [List.length_append, List.length_singleton]
        omega

theorem length_zeroPadded (width : Nat) {n : Nat} (h : n < Nat.pow 10 (width + 1)) :
    (zeroPadded (width + 1) (natDigits n)).length = width + 1 := by
  have hle := length_natDigits_le h
  rw [zeroPadded, List.length_append, List.length_replicate]
  omega

end SessionTokens.Text
