import SessionTokens.Token.Error

/-! # Checks that are all made

Combining two outcomes keeps every failure, those of the left first, so that a caller sees all
broken rules at once. A `Check` is an expression over outcomes; `Check.run` evaluates it.
-/

namespace SessionTokens

/-- The outcome of one or more independent checks. -/
inductive Validated (α : Type u) where
  | valid (value : α)
  | invalid (violations : Violations)
  deriving DecidableEq, Repr

namespace Validated

/-- The outcome of a single failed check. -/
def fail (error : TokenError) : Validated α := .invalid ⟨error, []⟩

/-- The outcome of a single check. -/
def ofExcept : Except TokenError α → Validated α
  | .ok value => .valid value
  | .error error => fail error

/-- Whether nothing failed. -/
def isValid : Validated α → Bool
  | .valid _ => true
  | .invalid _ => false

/-- Changes the value of a valid outcome. -/
def map (f : α → β) : Validated α → Validated β
  | .valid value => .valid (f value)
  | .invalid violations => .invalid violations

/-- Combines two outcomes, keeping the failures of both. -/
def zip : Validated α → Validated β → Validated (α × β)
  | .valid left, .valid right => .valid (left, right)
  | .invalid left, .valid _ => .invalid left
  | .valid _, .invalid right => .invalid right
  | .invalid left, .invalid right => .invalid (left ++ right)

/-- The outcome as a result that fails with all violations. -/
def toExcept : Validated α → Except Violations α
  | .valid value => .ok value
  | .invalid violations => .error violations

/-- The failures of an outcome. -/
def errors : Validated α → List TokenError
  | .valid _ => []
  | .invalid violations => violations.toList

@[simp] theorem errors_map (f : α → β) (v : Validated α) : (v.map f).errors = v.errors := by
  cases v <;> rfl

@[simp] theorem errors_zip (v : Validated α) (w : Validated β) :
    (v.zip w).errors = v.errors ++ w.errors := by
  cases v <;> cases w <;> simp [zip, errors]

theorem errors_eq_nil_iff (v : Validated α) : v.errors = [] ↔ v.isValid := by
  cases v <;> simp [errors, isValid, Violations.toList_ne_nil]

end Validated

/-- An expression over outcomes, whose leaves are single checks. -/
inductive Check (α : Type u) where
  | valid (value : α)
  | invalid (error : TokenError)
  | ofExcept (result : Except TokenError α)
  | map (f : α → α) (check : Check α)
  | zipWith (f : α → α → α) (left right : Check α)

/-- Makes every check of an expression. -/
def Check.run : Check α → Validated α
  | .valid value => .valid value
  | .invalid error => .fail error
  | .ofExcept result => .ofExcept result
  | .map f check => check.run.map f
  | .zipWith f left right => (left.run.zip right.run).map fun (l, r) => f l r

end SessionTokens
