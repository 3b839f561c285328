import SelectorSyntax.Proofs.Pseudo.Colons
import SelectorSyntax.Proofs.Warning.Once

/-!
# Validating groups one after the other

A run of `validate` goes through its groups with one log of warnings.  All that a group does with the log is to give
warnings, and whether it is valid and the line that is printed for it do not depend on what is in the log
(`exists_validateGroup_eq`).  So what a run does is put together from what the groups do alone
(`exists_validateAll_eq`), but for the warnings that were given before: these are printed once
(`run_validate_eq_runs`).
-/

namespace SelectorSyntax.Command

open WarningLog (eraseDups_flatMap eraseDups_map line_injective printed_warnAll)

/-! ### Steps -/

/-- Looking at a token gives some warnings, whatever the log. -/
theorem exists_lint_eq (token : Text) : ∃ messages, ∀ log, lint log token = log.warnAll component messages := by
  refine ⟨(warningOf? token).toList, fun log => ?_⟩
  rw [lint_eq]
  cases warningOf? token <;> rfl

theorem exists_foldl_lint_eq (tokens : List Text) :
    ∃ messages, ∀ log, tokens.foldl lint log = log.warnAll component messages := by
  induction tokens with
  | nil => exact ⟨[], fun _ => rfl⟩
  | cons token tokens ih =>
    obtain ⟨first, hfirst⟩ := exists_lint_eq token
    obtain ⟨rest, hrest⟩ := ih
    refine ⟨first ++ rest, fun log => ?_⟩
    rw [List.foldl_cons, hfirst, hrest, WarningLog.warnAll_append]

/-- A group is checked without regard to the warnings so far, and some are added to them. -/
theorem exists_validateGroup_eq (strict : Bool) (group : Text) : ∃ messages, ∀ log,
    validateGroup strict log group =
      ((validateGroup strict .empty group).1, (validateGroup strict .empty group).2.1,
        log.warnAll component messages) := by
  obtain ⟨messages, hmessages⟩ := exists_foldl_lint_eq ((Group.sequences group).flatMap lintedIn)
  by_cases hgroup : isValidGroup group = true
  · refine ⟨messages, fun log => ?_⟩
    simp only [validateGroup, if_pos hgroup, hmessages]
    split <;> rfl
  · refine ⟨[], fun log => ?_⟩
    simp only [validateGroup, if_neg hgroup]
    rfl

/-! ### Runs -/

/-- The warnings that a run over these groups prints, in order. -/
def warnings (strict : Bool) (groups : List Text) : List Text :=
  (validateAll strict .empty groups).2.2.printed

/-- The steps put together: the verdicts, the lines and the warnings of all groups in order. -/
theorem exists_validateAll_eq (strict : Bool) : ∃ messages : Text → List Text, ∀ groups log,
    validateAll strict log groups =
      (groups.all fun group => (validateGroup strict .empty group).1,
        groups.flatMap fun group => (validateGroup strict .empty group).2.1,
        log.warnAll component (groups.flatMap messages)) := by
  choose messages h using exists_validateGroup_eq strict
  refine ⟨messages, fun groups log => ?_⟩
  induction groups generalizing log with
  | nil => rfl
  | cons group groups ih =>
    simp only [validateAll]
    rw [h group log]
    dsimp only
    rw [ih, List.flatMap_cons, List.flatMap_cons, List.all_cons, WarningLog.warnAll_append]

theorem exitStatus_eq_zero_iff {valid : Bool} : exitStatus valid = 0 ↔ valid = true := by
  cases valid <;> decide

/-- A run over several groups succeeds if it does for each of them alone, and prints for each what is printed for it
alone, the groups in order.  Of the warnings each is printed at its first occurrence only, and none is lost. -/
theorem run_validate_eq_runs (strict : Bool) (groups : List Text) :
    let all := run (.validate strict groups)
    let alone (group : Text) := run (.validate strict [group])
    (all.exit = 0 ↔ ∀ group ∈ groups, (alone group).exit = 0) ∧
    all.stdout = groups.flatMap (fun group => (alone group).stdout) ∧
    all.stderr = (warnings strict groups).flatten ∧
    (∀ group, (alone group).stderr = (warnings strict [group]).flatten) ∧
    warnings strict groups = (groups.flatMap fun group => warnings strict [group]).eraseDups ∧
    (∀ group ∈ groups, ∀ w ∈ warnings strict [group], w ∈ warnings strict groups) := by
  obtain ⟨messages, h⟩ := exists_validateAll_eq strict
  have hwarnings (groups : List Text) : warnings strict groups =
      (groups.flatMap messages).eraseDups.map (WarningLog.line component) := by
    rw [warnings, h, printed_warnAll]
  have hfirst : warnings strict groups = (groups.flatMap fun group => warnings strict [group]).eraseDups := by
    simp only [hwarnings, List.flatMap_singleton, ← eraseDups_map (line_injective component), eraseDups_flatMap,
      List.map_flatMap]
  refine ⟨?_, ?_, rfl, fun group => rfl, hfirst, fun group hgroup w hw => ?_⟩
  · simp [run, h, exitStatus_eq_zero_iff]
  · simp [run, h]
  · rw [hfirst, List.mem_eraseDups, List.mem_flatMap]
    exact ⟨group, hgroup, hw⟩

end SelectorSyntax.Command
