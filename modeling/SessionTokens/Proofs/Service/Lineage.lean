import SessionTokens.Proofs.Service.Calls

/-! # Where records come from

The steps that calls have made tell where a record comes from. The call that issued it is the one
that made the last step to bring a record under its token. A call that refreshes takes the record of
another call, and so succeeds that call in its line; a line goes back from call to call, and never
forgets a call of which the record was deleted.
-/

namespace SessionTokens

namespace CallStep

/-- Whether a step brings a record under a token that had none. -/
def brings (token : RefreshToken) (step : CallStep) : Bool :=
  (step.before.store.find? token).isNone && (step.after.store.find? token).isSome

/-- Whether a step brings a record under any token. -/
def issues (step : CallStep) : Bool :=
  step.after.store.rows.any fun (token, _) => step.brings token

/-- Whether a call has issued a record in one of its steps. -/
def hasIssued (index : Nat) (steps : List CallStep) : Bool :=
  steps.any fun step => step.call = index && step.issues

/-- The call that has issued the record under a token, given the steps with the latest first. -/
def issuer? (token : RefreshToken) (steps : List CallStep) : Option Nat :=
  (steps.find? (·.brings token)).map (·.call)

/-- A call refreshes by taking the record that another call has issued. -/
def Succeeds (parent child : Nat) : List CallStep → Prop
  | [] => False
  | step :: earlier =>
      (step.call = child ∧ ∃ token record, step.request = .refresh token ∧
        step.Takes token record ∧ issuer? token earlier = some parent) ∨
      Succeeds parent child earlier

/-- Any number of calls, each of which succeeds the one before. -/
inductive Descends (steps : List CallStep) (ancestor : Nat) : Nat → Prop
  | self : Descends steps ancestor ancestor
  | refreshed {parent child : Nat} :
      Descends steps ancestor parent → Succeeds parent child steps → Descends steps ancestor child

variable {step : CallStep} {steps : List CallStep} {token : RefreshToken} {record : Record}
  {index parent child : Nat}

theorem brings_eq_true_iff :
    step.brings token = true ↔
      step.before.store.find? token = none ∧ ∃ record, step.after.store.find? token = some record := by
  rw [brings, Bool.and_eq_true, Option.isNone_iff_eq_none, Option.isSome_iff_exists]

theorem issues_eq_true_iff : step.issues = true ↔ ∃ token, step.brings token = true := by
  rw [issues, List.any_eq_true]
  constructor
  · rintro ⟨⟨token, record⟩, -, hbrings⟩
    exact ⟨token, hbrings⟩
  · rintro ⟨token, hbrings⟩
    obtain ⟨-, record, hafter⟩ := brings_eq_true_iff.mp hbrings
    exact ⟨(token, record), Store.find?_eq_some_iff.mp hafter, hbrings⟩

theorem issuer?_cons_of_brings (h : step.brings token = true) :
    issuer? token (step :: steps) = some step.call := by
  rw [issuer?, List.find?_cons_of_pos h, Option.map_some]

theorem issuer?_cons_of_not_brings (h : ¬ step.brings token = true) :
    issuer? token (step :: steps) = issuer? token steps := by
  rw [issuer?, List.find?_cons_of_neg h, issuer?]

theorem not_brings_of_keeps (h : step.before.store.Keeps step.after.store) (token : RefreshToken) :
    ¬ step.brings token = true := by
  intro hbrings
  obtain ⟨hbefore, record, hafter⟩ := brings_eq_true_iff.mp hbrings
  obtain ⟨old, hold, -⟩ := h token record hafter
  rw [hbefore] at hold
  cases hold

theorem hasIssued_cons_of_keeps (h : step.before.store.Keeps step.after.store) :
    hasIssued index (step :: steps) = hasIssued index steps := by
  have hnot : step.issues = false := Bool.eq_false_iff.mpr fun hissues => by
    obtain ⟨token, hbrings⟩ := issues_eq_true_iff.mp hissues
    exact not_brings_of_keeps h token hbrings
  simp [hasIssued, hnot]

theorem issuer?_cons_of_keeps (h : step.before.store.Keeps step.after.store)
    (token : RefreshToken) : issuer? token (step :: steps) = issuer? token steps :=
  issuer?_cons_of_not_brings (not_brings_of_keeps h token)

theorem brings_iff_of_push {hfresh : step.before.store.find? record.token = none}
    (h : step.after.store = step.before.store.push record hfresh) :
    step.brings token = true ↔ token = record.token := by
  rw [brings_eq_true_iff, h, Store.find?_push]
  constructor
  · rintro ⟨hbefore, kept, hkept⟩
    split at hkept
    next heq => exact heq
    next =>
      rw [hbefore] at hkept
      cases hkept
  · rintro rfl
    exact ⟨hfresh, record, if_pos rfl⟩

theorem hasIssued_cons_of_push {hfresh : step.before.store.find? record.token = none}
    (h : step.after.store = step.before.store.push record hfresh) :
    hasIssued index (step :: steps) = true ↔
      step.call = index ∨ hasIssued index steps = true := by
  have hissues : step.issues = true :=
    issues_eq_true_iff.mpr ⟨record.token, (brings_iff_of_push h).mpr rfl⟩
  simp [hasIssued, hissues]

theorem issuer?_cons_of_push {hfresh : step.before.store.find? record.token = none}
    (h : step.after.store = step.before.store.push record hfresh) (token : RefreshToken) :
    issuer? token (step :: steps) =
      if token = record.token then some step.call else issuer? token steps := by
  split
  next heq => exact issuer?_cons_of_brings ((brings_iff_of_push h).mpr heq)
  next hne => exact issuer?_cons_of_not_brings fun hbrings => hne ((brings_iff_of_push h).mp hbrings)

/-- After a step that adds a record, each record is that one or was there before. -/
theorem find?_cases_of_push {added : Record} {hfresh : step.before.store.find? added.token = none}
    (h : step.after.store = step.before.store.push added hfresh)
    (hfound : step.after.store.find? token = some record) (steps : List CallStep) :
    (token = added.token ∧ record = added ∧ issuer? token (step :: steps) = some step.call) ∨
      (step.before.store.find? token = some record ∧
        issuer? token (step :: steps) = issuer? token steps) := by
  rw [h, Store.find?_push] at hfound
  rw [issuer?_cons_of_push h]
  split at hfound
  next heq =>
    cases hfound
    exact .inl ⟨heq, rfl, if_pos heq⟩
  next hne => exact .inr ⟨hfound, if_neg hne⟩

/-! ## Lines of calls -/

theorem Succeeds.later (h : Succeeds parent child steps) (step : CallStep) :
    Succeeds parent child (step :: steps) :=
  .inr h

/-- A step that takes nothing to refresh it makes nobody a successor. -/
theorem Succeeds.earlier (h : Succeeds parent child (step :: steps))
    (hnot : ∀ token record, step.request = .refresh token → ¬ step.Takes token record) :
    Succeeds parent child steps := by
  rcases h with ⟨-, token, record, hrequest, htakes, -⟩ | hearlier
  · exact absurd htakes (hnot token record hrequest)
  · exact hearlier

theorem Descends.later {ancestor : Nat} (h : Descends steps ancestor index) (step : CallStep) :
    Descends (step :: steps) ancestor index := by
  induction h with
  | self => exact .self
  | refreshed _ hsucceeds ih => exact ih.refreshed (hsucceeds.later step)

/-- What a call shares with each that succeeds it, it shares with all that descend from it. -/
theorem Descends.eq {α : Type} {ancestor : Nat} {f : Nat → α}
    (h : Descends steps ancestor index)
    (hf : ∀ parent child, Succeeds parent child steps → f child = f parent) :
    f index = f ancestor := by
  induction h with
  | self => rfl
  | refreshed _ hsucceeds ih => rw [hf _ _ hsucceeds, ih]

/-- The first call of a line is succeeded by another, unless it is the last one as well. -/
theorem Descends.eq_or_succeeded {ancestor : Nat} (h : Descends steps ancestor index) :
    index = ancestor ∨ ∃ child, Succeeds ancestor child steps := by
  induction h with
  | self => exact .inl rfl
  | refreshed _ hsucceeds ih =>
      rcases ih with rfl | hsucceeded
      · exact .inr ⟨_, hsucceeds⟩
      · exact .inr hsucceeded

end CallStep

end SessionTokens
