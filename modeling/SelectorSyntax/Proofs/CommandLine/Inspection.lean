import SelectorSyntax.Proofs.Group.Sequences
import SelectorSyntax.Proofs.Report.Agreement

/-!
# Inspecting and validating a selector

The two commands come to their verdicts on different ways.  `validate` asks the rule for groups, cuts the group at its
commas and judges what the pieces are cut into; `inspect` cuts the text into tokens at once and judges each of them in
its report.  On a group of a single selector they agree (`Command.exit_inspect_eq_exit_validate`): without a comma the
group is a selector by the grammar, so it has tokens, and these are judged alike by both commands.
-/

namespace SelectorSyntax.Command

variable {strict : Bool} {s : Text} {tokens : List Token}

/-- A valid group is accepted if no token in it is rejected. -/
theorem validateGroup_fst (log : WarningLog) (h : isValidGroup s = true) :
    (validateGroup strict log s).1 = ((Group.sequences s).flatMap (rejectedIn strict)).isEmpty := by
  rw [validateGroup, if_pos h]
  dsimp only
  split <;> simp [*]

/-- No token is rejected if all of them are valid. -/
theorem isEmpty_rejectedIn (h : Token.ofText s = .ok tokens) :
    (rejectedIn strict s).isEmpty = tokens.all fun token => isValidSelector strict token.text := by
  have htexts : Token.texts s = .ok (tokens.map Token.text) := by
    rw [Token.texts, h]
    rfl
  rw [rejectedIn, htexts, Bool.eq_iff_iff]
  simp

theorem exit_validate_singleton (strict : Bool) (s : Text) :
    (run (.validate strict [s])).exit = exitStatus (validateGroup strict .empty s).1 := by
  simp [run, validateAll]

/-- On a valid group that is a single selector, both commands give the same verdict and exit with the same status. -/
theorem exit_inspect_eq_exit_validate (h : isValidGroup s = true) (hs : Group.sequences s = [s]) (strict : Bool) :
    ∃ r, Report.ofText strict s = .ok r ∧
      (∀ log, (validateGroup strict log s).1 = r.isValid) ∧
      ∀ json, (run (.inspect json strict s)).exit = (run (.validate strict [s])).exit := by
  obtain ⟨tokens, htokens⟩ := Token.exists_ofText (Group.selector_of_single h hs)
  obtain ⟨reports, hreport, hdescribes⟩ := Report.exists_ofText strict htokens
  have hverdict (log : WarningLog) : (validateGroup strict log s).1 = tokens.all fun token =>
      isValidSelector strict token.text := by
    rw [validateGroup_fst log h, hs, List.flatMap_singleton, isEmpty_rejectedIn htokens]
  refine ⟨_, hreport, fun log => ?_, fun json => ?_⟩
  · rw [hverdict, Report.isValid_eq hdescribes]
  · rw [exit_validate_singleton, hverdict, run, hreport, ← Report.isValid_eq hdescribes]

/-- An escaped comma, and a pseudo-element that no table has. -/
theorem exit_inspect_eq_exit_validate_of_unknown :
    let s := ".a\\,b > ::nosuch".toList
    (isValidGroup s = true ∧ Group.sequences s = [s]) ∧
    (∀ strict, ∃ r, Report.ofText strict s = .ok r ∧
      (∀ log, (validateGroup strict log s).1 = r.isValid) ∧
      ∀ json, (run (.inspect json strict s)).exit = (run (.validate strict [s])).exit) ∧
    (run (.validate false [s])).exit = 1 := by
  intro s
  have h : isValidGroup s = true := by decide +kernel
  have hs : Group.sequences s = [s] := by decide +kernel
  exact ⟨⟨h, hs⟩, exit_inspect_eq_exit_validate h hs, by decide +kernel⟩

end SelectorSyntax.Command
