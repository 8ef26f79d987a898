import SessionTokens.Proofs.Store.Outcome

/-! # Tokens do not interfere with one another

What is answered about a token, and what is kept under it, would have been the same if nobody had
ever asked for another token. Only the sweeps, which visit all records, have to stay; how many other
records they count makes no difference to the token either. Of the tokens that are drawn nothing is
assumed, and of the readings of the clock nothing but that each operation keeps its own.
-/

namespace SessionTokens.Store

variable {store other : Store} {operation : Operation} {token : RefreshToken}

/-- Two stores keep the same under every token of some kind. -/
def AgreesOn (visible : RefreshToken → Prop) (store other : Store) : Prop :=
  ∀ token, visible token → other.find? token = store.find? token

theorem AgreesOn.apply {visible : RefreshToken → Prop} (h : store.AgreesOn visible other)
    (operation : Operation) : (store.apply operation).AgreesOn visible (other.apply operation) := by
  intro token hvisible
  rw [find?_apply, find?_apply, h token hvisible]

theorem outcome_of_subject_ne {subject : RefreshToken}
    (hsubject : operation.subject? = some subject) (hne : token ≠ subject)
    (found : Option Record) : operation.outcome token found = found := by
  cases operation <;> cases hsubject
  case insert => exact if_neg hne
  case find => rfl
  case revoke => exact if_neg hne
  case prolong => exact if_neg hne

/-- An operation on a token is answered from what is kept under that token. -/
theorem answer_congr (hsubject : operation.subject? = some token)
    (h : other.find? token = store.find? token) :
    other.answer operation = store.answer operation := by
  cases operation <;> cases hsubject
  case insert lifetime now context =>
    simp only [answer, insert]
    cases hissued : Record.issue token context now lifetime with
    | error cause => rfl
    | ok record =>
        have hsame : other.find? record.token = store.find? record.token := by
          rw [(issue_eq_ok hissued).1, h]
        by_cases hfresh : store.find? record.token = none
        · simp only [hsame, hfresh, dif_pos]
        · simp only [hsame, hfresh, dif_neg, not_false_eq_true]
  case find => rw [answer, answer, h]
  case revoke now =>
    simp only [answer, revoke, h]
    cases store.find? token with
    | none => rfl
    | some record =>
        simp only
        split <;> rfl
  case prolong lifetime now =>
    simp only [answer, prolong, h]
    cases store.find? token with
    | none => rfl
    | some record =>
        simp only
        split
        next => rfl
        next =>
          split
          next => rfl
          next => cases now.add? lifetime <;> rfl

theorem transcriptOf_cons_of_subject (hsubject : operation.subject? = some token)
    (rest : List Operation) :
    store.transcriptOf token (operation :: rest) =
      (operation, store.answer operation) :: (store.apply operation).transcriptOf token rest := by
  simp [transcriptOf, transcript, hsubject]

theorem transcriptOf_cons_of_not_subject (hsubject : operation.subject? ≠ some token)
    (rest : List Operation) :
    store.transcriptOf token (operation :: rest) =
      (store.apply operation).transcriptOf token rest := by
  simp [transcriptOf, transcript, hsubject]

/-- Two runs side by side, the second of them without the operations on other tokens. -/
theorem isolate_agrees (h : other.find? token = store.find? token) (operations : List Operation) :
    (other.run (isolate token operations)).find? token = (store.run operations).find? token ∧
      other.transcriptOf token (isolate token operations) =
        store.transcriptOf token operations := by
  induction operations generalizing store other with
  | nil => exact ⟨h, rfl⟩
  | cons operation rest ih =>
      have happlied :
          (other.apply operation).find? token = (store.apply operation).find? token := by
        rw [find?_apply, find?_apply, h]
      cases hsubject : operation.subject? with
      | none =>
          have hkept : isolate token (operation :: rest) = operation :: isolate token rest := by
            simp [isolate, hsubject]
          have hother : operation.subject? ≠ some token := by simp [hsubject]
          rw [hkept, run_cons, run_cons, transcriptOf_cons_of_not_subject hother,
            transcriptOf_cons_of_not_subject hother]
          exact ih happlied
      | some subject =>
          by_cases heq : subject = token
          · subst heq
            have hkept : isolate subject (operation :: rest) =
                operation :: isolate subject rest := by
              simp [isolate, hsubject]
            rw [hkept, run_cons, run_cons, transcriptOf_cons_of_subject hsubject,
              transcriptOf_cons_of_subject hsubject, answer_congr hsubject h]
            obtain ⟨hfound, htranscript⟩ := ih happlied
            exact ⟨hfound, by rw [htranscript]⟩
          · -- the operation is left out, and the run that makes it keeps the token as it was
            have hdropped : isolate token (operation :: rest) = isolate token rest := by
              simp [isolate, hsubject, heq]
            have hother : operation.subject? ≠ some token := by simp [hsubject, heq]
            rw [hdropped, run_cons, transcriptOf_cons_of_not_subject hother]
            refine ih ?_
            rw [find?_apply, outcome_of_subject_ne hsubject (Ne.symm heq), h]

/-- In every run, all that is answered about a token and the record that is kept under it in the end
are the same as in the run without the operations on other tokens. -/
theorem isolated_run_agrees (store : Store) (token : RefreshToken) (operations : List Operation) :
    (store.run (isolate token operations)).find? token = (store.run operations).find? token ∧
      store.transcriptOf token (isolate token operations) =
        store.transcriptOf token operations :=
  isolate_agrees rfl operations

end SessionTokens.Store
