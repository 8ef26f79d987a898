/-! # Cutting a text at a mark

A text can be cut at every occurrence of a mark, at the first one or at the last one. Joining the
pieces with the mark between them gives the text again.
-/

namespace SessionTokens.Text

/-- The pieces of a text between the occurrences of a mark. There is at least one. -/
def splitAll (mark : Char) : List Char → List (List Char)
  | [] => [[]]
  | c :: rest =>
      if c = mark then [] :: splitAll mark rest
      else
        match splitAll mark rest with
        | [] => [[c]]
        | piece :: others => (c :: piece) :: others

/-- A text up to the first occurrence of a mark, and what follows the mark if it is there. -/
def splitFirst (mark : Char) : List Char → List Char × Option (List Char)
  | [] => ([], none)
  | c :: rest =>
      if c = mark then ([], some rest)
      else let (before, after) := splitFirst mark rest; (c :: before, after)

/-- What comes before and after the last occurrence of a mark. -/
def splitLast (mark : Char) : List Char → Option (List Char × List Char)
  | [] => none
  | c :: rest =>
      match splitLast mark rest with
      | some (before, after) => some (c :: before, after)
      | none => if c = mark then some ([], rest) else none

theorem splitAll_ne_nil (mark : Char) (text : List Char) : splitAll mark text ≠ [] := by
  cases text with
  | nil => simp [splitAll]
  | cons c rest => rw [splitAll]; repeat' split <;> simp

/-- The pieces joined by the mark are the text. -/
theorem intercalate_splitAll (mark : Char) (text : List Char) :
    [mark].intercalate (splitAll mark text) = text := by
  induction text with
  | nil => rfl
  | cons c rest ih =>
      have hne := splitAll_ne_nil mark rest
      rw [splitAll]
      cases hs : splitAll mark rest with
      | nil => exact absurd hs hne
      | cons piece others =>
          rw [hs] at ih
          split
          next hc => subst hc; simpa [List.intercalate, List.intersperse] using ih
          next => cases others <;> simpa [List.intercalate, List.intersperse] using ih

theorem splitLast_eq_none {mark : Char} {text : List Char} :
    splitLast mark text = none ↔ mark ∉ text := by
  induction text with
  | nil => simp [splitLast]
  | cons c rest ih =>
      rw [splitLast]
      cases hs : splitLast mark rest with
      | some parts =>
          have hmem : mark ∈ rest := Decidable.not_not.1 fun h => by simp [ih.2 h] at hs
          simp [hmem]
      | none =>
          have hmem := ih.1 hs
          by_cases hc : c = mark
          · simp [hc]
          · simp [hc, hmem, Ne.symm hc]

/-- The part before the first mark is the one that holds no mark. -/
theorem splitFirst_append {mark : Char} {before : List Char} (h : mark ∉ before)
    (after : List Char) : splitFirst mark (before ++ mark :: after) = (before, some after) := by
  induction before with
  | nil => simp [splitFirst]
  | cons c before ih =>
      rw [List.mem_cons, not_or] at h
      rw [List.cons_append, splitFirst, if_neg (Ne.symm h.1), ih h.2]

/-- The part behind the last mark is the one that holds no mark. -/
theorem splitLast_append {mark : Char} {after : List Char} (h : mark ∉ after) :
    ∀ before : List Char, splitLast mark (before ++ mark :: after) = some (before, after)
  | [] => by simp [splitLast, splitLast_eq_none.2 h]
  | c :: before => by
      rw [List.cons_append, splitLast, splitLast_append h before]

theorem splitLast_eq_some {mark : Char} {text before after : List Char} :
    splitLast mark text = some (before, after) ↔
      text = before ++ mark :: after ∧ mark ∉ after := by
  constructor
  · intro h
    induction text generalizing before with
    | nil => cases h
    | cons c rest ih =>
        rw [splitLast] at h
        cases hs : splitLast mark rest with
        | some parts =>
            rw [hs] at h
            cases h
            obtain ⟨heq, hmem⟩ := ih hs
            exact ⟨by rw [heq]; rfl, hmem⟩
        | none =>
            rw [hs] at h
            by_cases hc : c = mark
            · simp only [hc, if_true, Option.some.injEq, Prod.mk.injEq] at h
              obtain ⟨rfl, rfl⟩ := h
              exact ⟨by simp [hc], splitLast_eq_none.1 hs⟩
            · simp [hc] at h
  · rintro ⟨rfl, hmem⟩
    exact splitLast_append hmem before

end SessionTokens.Text
