import SelectorSyntax.Proofs.Pseudo.Table

/-!
# Vendor names

A name with a vendor's mark is valid without being known, and it may hold a parenthesis that is escaped.  As a
pseudo-element it is asked about by the grammar, so it is always accepted.  As a pseudo-class it is first cut at a
parenthesis, escaped or not, and what is before the cut is then looked up as the name of a pseudo-class with an
argument, which never has a vendor's mark.  So the pseudo-classes with a parenthesis, and no others, are refused
(`Pseudo.judge_vendor_iff`).
-/

namespace SelectorSyntax.Pseudo

open SelectorSyntax.Derivation

variable {t u : Text} {m : Char}

theorem acceptsArgument_of_mark (hm : m = '-' ∨ m = '_') (whole u argument : Text) :
    acceptsArgument whole (m :: u) argument = false := by
  have hlang : Text.sameIgnoringCase "lang".toList (m :: u) = false := by
    simpa [Text.isListed] using isListed_of_mark ["lang"] (by simp) hm u
  have hnth := isListed_of_mark nthClasses (by simp) hm u
  rw [acceptsArgument, hlang, hnth]
  rfl

theorem vendor_cases (h : VendorPseudo t) : (∃ u, t = ':' :: ':' :: u) ∨
    ∃ m u, (m = '-' ∨ m = '_') ∧ t = ':' :: m :: u := by
  obtain ⟨c, m, u, hc, hm, rfl⟩ := h.exists_mark
  rcases hc with _ | _
  · exact .inr ⟨m, u, hm, rfl⟩
  · exact .inl ⟨m :: u, rfl⟩

theorem isValidElement_of_vendor (h : VendorPseudo t) : isValidElement t = true := by
  rw [isValidElement, Bool.or_eq_true, Production.accepts_iff_derives]
  exact .inr h

theorem mark_ne_colon (hm : m = '-' ∨ m = '_') (v : Text) : m :: u ≠ ':' :: v := by
  rcases hm with rfl | rfl <;> simp

section

variable (h : VendorPseudo (':' :: m :: u)) (hm : m = '-' ∨ m = '_')

include h hm

/-- The pseudo-classes with a parenthesis are refused, even though it is escaped. -/
theorem isValidClass_of_vendor : isValidClass (':' :: m :: u) = decide ('(' ∉ ':' :: m :: u) := by
  have hacc : Production.vendorPseudo.accepts (':' :: m :: u) = true := (Production.accepts_iff_derives _ _).2 h
  rw [isValidClass]
  · by_cases hparen : '(' ∈ m :: u
    · obtain ⟨before, after, hcut, hbefore⟩ := List.eq_append_cons_of_mem hparen
      rw [hcut, Text.cutAt?_append hbefore]
      -- the mark is no parenthesis, so the cut leaves it
      cases before with
      | nil =>
        obtain rfl := (List.cons.inj hcut).1
        simp at hm
      | cons d before =>
        obtain rfl := (List.cons.inj hcut).1
        cases hargument : Text.dropEnd? ')' after <;> simp [hargument, acceptsArgument_of_mark hm]
    · simpa [Text.cutAt?_of_not_mem hparen, hacc] using hparen
  · exact mark_ne_colon hm

theorem hasElementForm_of_vendor : hasElementForm (':' :: m :: u) = false :=
  (KnownClass.vendor h (mark_ne_colon hm)).hasElementForm_eq

end

/-- A pseudo with a vendor's mark and without an argument is valid, whoever answers the questions of the judgement,
unless it has one colon and an escaped parenthesis in it.  The check of pseudo-elements accepts it in any case. -/
theorem judge_vendor_iff (h : Production.vendorPseudo.accepts t = true) :
    (∀ (M : Type → Type) [Monad M] (v : Validator M), v.judge t = pure (decide ([':', ':'] <+: t ∨ '(' ∉ t))) ∧
    (∀ strict, isValidSelector strict t = true ↔ [':', ':'] <+: t ∨ '(' ∉ t) ∧
    isValidElement t = true ∧
    (¬ [':', ':'] <+: t → (isValidClass t = isValidElement t ↔ '(' ∉ t)) := by
  have h : VendorPseudo t := (Production.accepts_iff_derives _ _).1 h
  have helement := isValidElement_of_vendor h
  have hkind := isKind_of_known (.inr (.vendor h))
  have hjudge (M : Type → Type) [Monad M] (v : Validator M) :
      v.judge t = pure (decide ([':', ':'] <+: t ∨ '(' ∉ t)) := by
    rcases vendor_cases h with ⟨u, rfl⟩ | ⟨m, u, hm, rfl⟩
    · have hcategory : Token.categoryAs (':' :: ':' :: u) .pseudo = some .pseudoElement := rfl
      rw [judge_of_element (Token.classification_of_categoryAs hkind hcategory) rfl, helement]
      simp
    · have hcolons : ¬ [':', ':'] <+: ':' :: m :: u := by
        rcases hm with rfl | rfl <;> simp
      have hcategory : Token.categoryAs (':' :: m :: u) .pseudo = some .pseudoClass := by
        simp [Token.categoryAs, hasElementForm_of_vendor h hm]
      rw [judge_of_class (Token.classification_of_categoryAs hkind hcategory) rfl, isValidClass_of_vendor h hm]
      simp only [hcolons, false_or]
  refine ⟨hjudge, fun strict => ?_, helement, fun hcolons => ?_⟩
  · simp [isValidSelector, hjudge]
  · rcases vendor_cases h with ⟨u, rfl⟩ | ⟨m, u, hm, rfl⟩
    · simp at hcolons
    · simp [helement, isValidClass_of_vendor h hm]

/-- A hyphen and a backslash are escaped, and a parenthesis is written by its number. -/
theorem judge_vendor_of_escapes :
    let t := ":_\\-\\28 o-\\61 \\\\".toList
    Production.vendorPseudo.accepts t = true ∧
    (∀ strict, isValidSelector strict t = true ↔ [':', ':'] <+: t ∨ '(' ∉ t) ∧
    (¬ [':', ':'] <+: t → (isValidClass t = isValidElement t ↔ '(' ∉ t)) ∧
    isValidSelector true t = true := by
  intro t
  have h : Production.vendorPseudo.accepts t = true := by decide +kernel
  obtain ⟨-, hvalid, -, hagree⟩ := judge_vendor_iff h
  exact ⟨h, hvalid, hagree, (hvalid true).2 (.inr (by decide))⟩

/-- A parenthesis in a name, which an escape makes part of it. -/
theorem not_isValidClass_of_escaped_parenthesis :
    let t := ":-o-a\\(".toList
    Production.vendorPseudo.accepts t = true ∧ isValidElement t = true ∧ isValidClass t = false ∧
      isValidSelector false t = false ∧ isValidSelector false (':' :: t) = true := by
  decide +kernel

end SelectorSyntax.Pseudo
