import SessionTokens.Proofs.Token.Validity

/-! # Trees of checks keep every failure

However checks are combined, the outcome is told by the leaves alone: either none of them failed,
and the functions between them are applied to what they found, or the failures of all of them are
reported from left to right. How the pairs are nested and where functions are applied does not show
in the failures.
-/

namespace SessionTokens

/-- A tree of checks, whose parts have values of any types. -/
inductive CheckTree : Type u → Type (u + 1) where
  | valid (value : α) : CheckTree α
  | invalid (error : TokenError) : CheckTree α
  | ofExcept (result : Except TokenError α) : CheckTree α
  | map (f : α → β) (tree : CheckTree α) : CheckTree β
  | zip (left : CheckTree α) (right : CheckTree β) : CheckTree (α × β)

namespace CheckTree

/-- Makes every check of a tree. -/
def run : CheckTree α → Validated α
  | .valid value => .valid value
  | .invalid error => .fail error
  | .ofExcept result => .ofExcept result
  | .map f tree => tree.run.map f
  | .zip left right => left.run.zip right.run

/-! ## What the leaves say -/

/-- The leaves of a tree from left to right, each with its error if it failed. -/
def leaves : CheckTree α → List (Option TokenError)
  | .valid _ => [none]
  | .invalid error => [some error]
  | .ofExcept (.ok _) => [none]
  | .ofExcept (.error error) => [some error]
  | .map _ tree => tree.leaves
  | .zip left right => left.leaves ++ right.leaves

/-- The errors of all leaves that failed, each once and from left to right. -/
def failures (tree : CheckTree α) : List TokenError := tree.leaves.filterMap id

/-- No leaf failed, and a value is what the functions of the tree make of the leaves. -/
def HasValue : CheckTree α → α → Prop
  | .valid found, value => found = value
  | .invalid _, _ => False
  | .ofExcept result, value => result = .ok value
  | .map f tree, value => ∃ found, tree.HasValue found ∧ f found = value
  | .zip left right, (leftValue, rightValue) =>
      left.HasValue leftValue ∧ right.HasValue rightValue

theorem failures_eq_nil_iff {tree : CheckTree α} :
    tree.failures = [] ↔ ∀ leaf ∈ tree.leaves, leaf = none :=
  List.filterMap_eq_nil_iff

/-! ## What running gives -/

theorem run_errors (tree : CheckTree α) : tree.run.errors = tree.failures := by
  induction tree with
  | valid | invalid => rfl
  | ofExcept result => cases result <;> rfl
  | map f tree ih => rw [run, Validated.errors_map, ih, failures, failures, leaves]
  | zip left right ihLeft ihRight =>
      rw [run, Validated.errors_zip, ihLeft, ihRight, failures, failures, failures, leaves,
        List.filterMap_append]

theorem run_eq_valid_iff {tree : CheckTree α} {value : α} :
    tree.run = .valid value ↔ tree.HasValue value := by
  induction tree with
  | valid found => rw [run, HasValue, Validated.valid.injEq]
  | invalid error => exact iff_of_false nofun id
  | ofExcept result => rw [run, HasValue, Validated.ofExcept_eq_valid_iff]
  | map f tree ih => simp only [run, HasValue, Validated.map_eq_valid_iff, ih]
  | zip left right ihLeft ihRight =>
      rw [run, HasValue, Validated.zip_eq_valid_iff, ihLeft, ihRight]

theorem toExcept_eq_ok_iff {tree : CheckTree α} {value : α} :
    tree.run.toExcept = .ok value ↔ tree.HasValue value := by
  rw [← run_eq_valid_iff]
  cases tree.run <;> simp [Validated.toExcept]

theorem isValid_run_iff {tree : CheckTree α} :
    tree.run.isValid = true ↔ ∀ leaf ∈ tree.leaves, leaf = none := by
  rw [← Validated.errors_eq_nil_iff, run_errors, failures_eq_nil_iff]

/-- Whatever the outcome of a tree is, its leaves say it. -/
structure Accumulates (tree : CheckTree α) : Prop where
  isValid_iff : tree.run.isValid = true ↔ ∀ leaf ∈ tree.leaves, leaf = none
  ok_iff : ∀ value, tree.run.toExcept = .ok value ↔ tree.HasValue value
  passed : (∀ leaf ∈ tree.leaves, leaf = none) → ∃ value, tree.run.toExcept = .ok value
  failed : (∃ leaf ∈ tree.leaves, leaf ≠ none) →
    ∃ violations, tree.run.toExcept = .error violations ∧ violations.toList ≠ [] ∧
      violations.toList = tree.failures
  /-- Neither the nesting of the pairs nor the functions show in the failures. -/
  regrouped : ∀ {β : Type u} (other : CheckTree β), other.leaves = tree.leaves →
    other.run.errors = tree.run.errors

/-- A tree of checks is valid exactly if no leaf failed, and then it has the value of the tree;
every other time it has the failures of all leaves in their order, which are not none. -/
theorem run_accumulates (tree : CheckTree α) : tree.Accumulates where
  isValid_iff := isValid_run_iff
  ok_iff _ := toExcept_eq_ok_iff
  passed hpassed := by
    have hvalid := isValid_run_iff.mpr hpassed
    cases hrun : tree.run with
    | valid value => exact ⟨value, rfl⟩
    | invalid violations =>
        rw [hrun] at hvalid
        cases hvalid
  failed hfailed := by
    have herrors := tree.run_errors
    cases hrun : tree.run with
    | valid value =>
        obtain ⟨leaf, hleaf, hne⟩ := hfailed
        exact absurd (isValid_run_iff.mp (by rw [hrun]; rfl) leaf hleaf) hne
    | invalid violations =>
        rw [hrun] at herrors
        exact ⟨violations, rfl, violations.toList_ne_nil, herrors⟩
  regrouped other hleaves := by
    rw [run_errors, run_errors, failures, failures, hleaves]

end CheckTree

/-! ## Expressions of one type -/

/-- An expression over outcomes of one type as a tree. -/
def Check.tree : Check α → CheckTree α
  | .valid value => .valid value
  | .invalid error => .invalid error
  | .ofExcept result => .ofExcept result
  | .map f check => .map f check.tree
  | .zipWith f left right => .map (fun (l, r) => f l r) (.zip left.tree right.tree)

theorem Check.run_tree (check : Check α) : check.tree.run = check.run := by
  induction check with
  | valid | invalid | ofExcept => rfl
  | map f check ih => rw [tree, CheckTree.run, ih, run]
  | zipWith f left right ihLeft ihRight =>
      rw [tree, CheckTree.run, CheckTree.run, ihLeft, ihRight, run]

end SessionTokens
