import SelectorSyntax.Proofs.Negation.Argument
import SelectorSyntax.Validation

/-!
# How a selector is judged

The judgement follows the category: none where the text is not classified, that of the selector itself where it is no
negation, and otherwise that of the selector inside, which is judged like any other text unless it is of a category
that may not be negated (`Validator.judge_of_inner`).

So a negation is made from its parts: whatever the spelling of `:not(` and the blanks around the argument, the argument
decides (`Validator.judge_of_argument`).
-/

namespace SelectorSyntax

theorem Negation.allows_iff {category : Category} :
    allows category = true ↔ category ≠ .negation ∧ category ≠ .pseudoElement := by
  cases category <;> decide

namespace Validator

open SelectorSyntax.Derivation

variable {m : Type → Type} [Monad m] {v : Validator m} {t inner : Text} {c found : Classification} {e : SelectorError}

theorem judge_of_error (h : Classification.ofText t = .error e) : v.judge t = pure false := by
  rw [judge, h]

theorem judge_of_ne_negation (h : Classification.ofText t = .ok c) (hne : c.category ≠ .negation) :
    v.judge t = v.judgeUnnegated t c.category := by
  rw [judge, h]
  simp only [hne, if_false]

theorem judge_of_inner_error (hc : Classification.ofText t = .ok c) (hnegation : c.category = .negation)
    (hinner : Negation.innerText? t = some inner) (he : Classification.ofText inner = .error e) :
    v.judge t = pure false := by
  rw [judge, hc]
  simp only [hnegation, if_true, Negation.ofText_of_error hc hnegation hinner he]

/-- A negation is judged by the text inside, which is judged as it would be alone. -/
theorem judge_of_inner (hc : Classification.ofText t = .ok c) (hnegation : c.category = .negation)
    (hinner : Negation.innerText? t = some inner) (hfound : Classification.ofText inner = .ok found) :
    v.judge t = if Negation.allows found.category then v.judge inner else pure false := by
  rw [judge, hc]
  simp only [hnegation, if_true, Negation.ofText_of_found hc hnegation hinner hfound]
  by_cases hallows : Negation.allows found.category = true
  · rw [if_pos hallows, if_pos hallows, judge_of_ne_negation hfound (Negation.allows_iff.1 hallows).1]
  · rw [if_neg hallows, if_neg hallows]

/-- A selector that ends with no blank is put into a negation: the negation is classified as one, gives the selector
back, and is judged as the selector is, but for the two categories that may not be negated. -/
theorem judge_of_argument {h a x b : Text} (hh : Lexeme.not.accepts h = true) (ha : Blanks a)
    (hx : Production.negationArg.accepts x = true) (hlast : ∀ c ∈ x.getLast?, ¬ Text.isBlank c) (hb : Blanks b) :
    let t := h ++ a ++ x ++ b ++ [')']
    ∃ found, Classification.ofText x = .ok found ∧
      Classification.ofText t = .ok ⟨.negation, none⟩ ∧
      Negation.ofText t =
        (if found.category = .negation ∨ found.category = .pseudoElement then
          .error (.forbiddenNesting x found.category)
        else .ok (some ⟨x, found.category⟩)) ∧
      (∀ (m : Type → Type) [Monad m] (v : Validator m), v.judge t =
        if found.category = .negation ∨ found.category = .pseudoElement then pure false else v.judge x) ∧
      ∀ v : Validator Id, Id.run (v.judge t) = true ↔
        (found.category ≠ .negation ∧ found.category ≠ .pseudoElement) ∧ Id.run (v.judge x) = true := by
  intro t
  rw [Pattern.accepts_iff_matches (by decide), Lexeme.matches_not] at hh
  rw [Production.accepts_iff_matches, Production.matches_pattern] at hx
  obtain ⟨p, hp⟩ := Token.exists_isKind hx.accepted
  obtain ⟨found, hfound, -⟩ := Token.classification_of_isKind hp
  have hc : Classification.ofText t = .ok ⟨.negation, none⟩ :=
    Negation.classification_of_derives (.mk hh ha hx hb)
  have hinner : Negation.innerText? t = some x := by
    rw [Negation.innerText?_eq hh ha hx hb, Text.trimEnd_eq_self hlast]
  have hrefused : (found.category = .negation ∨ found.category = .pseudoElement) ↔
      ¬ Negation.allows found.category = true := by
    rw [Negation.allows_iff]
    tauto
  have hjudge (m : Type → Type) [Monad m] (v : Validator m) : v.judge t =
      if found.category = .negation ∨ found.category = .pseudoElement then pure false else v.judge x := by
    rw [judge_of_inner hc rfl hinner hfound]
    simp only [hrefused, ite_not]
  refine ⟨found, hfound, hc, ?_, hjudge, ?_⟩
  · rw [Negation.ofText_of_found hc rfl hinner hfound]
    simp only [hrefused, ite_not]
  · intro v
    rw [hjudge, ← not_or]
    by_cases hcategory : found.category = .negation ∨ found.category = .pseudoElement
    · simp [hcategory]
    · simp [hcategory]

/-- The argument has a parenthesis in it, and letters of the opening are escaped. -/
theorem judge_of_quoted_argument :
    let h := ":\\6eo\\54 (".toList
    let x := "[a=')']".toList
    let t := h ++ "\t".toList ++ x ++ " ".toList ++ [')']
    (Lexeme.not.accepts h = true ∧ Blanks "\t".toList ∧ Production.negationArg.accepts x = true ∧
      (∀ c ∈ x.getLast?, ¬ Text.isBlank c) ∧ Blanks " ".toList) ∧
    ∃ found, Classification.ofText x = .ok found ∧
      Classification.ofText t = .ok ⟨.negation, none⟩ ∧
      Negation.ofText t =
        (if found.category = .negation ∨ found.category = .pseudoElement then
          .error (.forbiddenNesting x found.category)
        else .ok (some ⟨x, found.category⟩)) ∧
      (∀ (m : Type → Type) [Monad m] (v : Validator m), v.judge t =
        if found.category = .negation ∨ found.category = .pseudoElement then pure false else v.judge x) ∧
      ∀ v : Validator Id, Id.run (v.judge t) = true ↔
        (found.category ≠ .negation ∧ found.category ≠ .pseudoElement) ∧ Id.run (v.judge x) = true := by
  intro h x t
  have hh : Lexeme.not.accepts h = true := by decide +kernel
  have ha : Blanks "\t".toList := by simp [Blanks, Text.isBlank]
  have hx : Production.negationArg.accepts x = true := by decide +kernel
  have hbracket : x.getLast? = some ']' := by decide
  have hlast : ∀ c ∈ x.getLast?, ¬ Text.isBlank c := by simp [hbracket, Text.isBlank]
  have hb : Blanks " ".toList := by simp [Blanks, Text.isBlank]
  exact ⟨⟨hh, ha, hx, hlast, hb⟩, judge_of_argument hh ha hx hlast hb⟩

end Validator

end SelectorSyntax
