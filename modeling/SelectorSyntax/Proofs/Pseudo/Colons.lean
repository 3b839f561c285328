import SelectorSyntax.CommandLine
import SelectorSyntax.Proofs.Pseudo.Parts

/-!
# Vendors, arguments and colons

Whether a pseudo has a vendor, an argument and a number of colons is asked in three ways that know nothing of each
other: by the marked rule, by the first parenthesis unless the pseudo is a known element, and by the list of the names
that may be written with one colon.  Still at most one of the answers is there, because no name in the list has a
vendor's mark or a parenthesis.

The number of colons is the one that the text has, and it agrees with the form of a pseudo-element, which is asked in a
fourth way (`Pseudo.entries_exclusive`).  So there is no more than one thing to warn about (`Command.lint_eq`).
-/

namespace SelectorSyntax

open SelectorSyntax.Derivation

namespace Pseudo

variable {t body u : Text} {c : Classification} {p : Pseudo}

/-! ### The number of colons -/

theorem colonsOf?_one (hbody : ∀ u, body ≠ ':' :: u) :
    colonsOf? (':' :: body) = if Text.isListed legacyElements body then some .one else none := by
  have hbare : bare (':' :: body) = body := bare_append .one hbody
  have hlead : Text.dropLead? "::".toList (':' :: body) = none := by
    cases body with
    | nil => rfl
    | cons d u =>
      have hd : ':' ≠ d := fun hd => hbody u (by rw [hd])
      simp [Text.dropLead?, hd]
  rw [colonsOf?, hbare, hlead]
  rfl

theorem colonsOf?_two (body : Text) :
    colonsOf? ([':', ':'] ++ body) = if Text.isListed legacyElements body then some .two else none := rfl

/-- No name with a vendor's mark may have one colon as well as two. -/
theorem colonsOf?_of_vendor (h : VendorPseudo t) : colonsOf? t = none := by
  obtain ⟨c, m, u, hc, hm, rfl⟩ := h.exists_mark
  rw [colonsOf?, bare_append hc (mark_ne_colon hm), isListed_of_mark legacyElements (by simp) hm u]
  rfl

/-- The names that may have one colon have no parenthesis. -/
theorem argumentOf?_of_legacy (hc : Derivation.Colons u) (h : Text.isListed legacyElements body = true) :
    argumentOf? (u ++ body) = none := by
  rw [argumentOf?_colons hc, argumentOf?_of_not_mem]
  exact (isWord_of_table (by simp) h).not_mem (by decide)

/-! ### The entries together -/

@[simp] theorem vendor_split (t : Text) : (split t).vendor = (VendorParts.ofText? t).map (·.vendor) := rfl

@[simp] theorem colons_split (t : Text) : (split t).colons = colonsOf? t := rfl

theorem category_of_isPseudo (hc : Classification.ofText t = .ok c) (hpseudo : c.category.isPseudo = true) :
    c.category = if hasElementForm t then .pseudoElement else .pseudoClass := by
  have hcategory := (Token.isKind_of_classification hc).2
  rw [productionOf_of_isPseudo hpseudo] at hcategory
  exact (Option.some.inj hcategory).symm

theorem exists_element_iff (h : ofText t = .ok (some p)) :
    (∃ c, Classification.ofText t = .ok c ∧ c.category = .pseudoElement) ↔ hasElementForm t = true := by
  constructor
  · rintro ⟨c, hc, hcategory⟩
    exact hasElementForm_of_classification hc hcategory
  · intro hform
    obtain ⟨c, hc, hpseudo, -⟩ := classification_of_ofText h
    exact ⟨c, hc, by rw [category_of_isPseudo hc hpseudo, if_pos hform]⟩

theorem entries_of_vendor (h : ofText t = .ok (some p)) {v : Text} (hv : p.vendor = some v) :
    p.argument = none ∧ p.colons = none := by
  obtain ⟨-, rfl⟩ := eq_split_of_ofText h
  rw [vendor_split, Option.map_eq_some_iff] at hv
  obtain ⟨parts, hparts, -⟩ := hv
  obtain ⟨c, hc, hmark, hrest, heq⟩ := VendorParts.mark_and_rest hparts
  rw [split_of_vendor hparts]
  exact ⟨rfl, colonsOf?_of_vendor (vendorPseudo_iff.2 ⟨c, _, _, hc, hmark, hrest, heq⟩)⟩

theorem argument_of_colons (h : ofText t = .ok (some p)) {n : Colons} (hn : p.colons = some n) :
    p.argument = none := by
  obtain ⟨hpseudo, rfl⟩ := eq_split_of_ofText h
  obtain ⟨c, body, hc, hbody, -, rfl⟩ := exists_body hpseudo
  rw [colons_split] at hn
  have hlisted : Text.isListed legacyElements body = true := by
    by_contra hnot
    rw [colonsOf?, bare_append hc hbody, if_neg hnot] at hn
    cases hn
  simp [split, argumentOf?_of_legacy hc hlisted]

theorem colons_eq_one_iff (h : ofText t = .ok (some p)) :
    p.colons = some .one ↔ hasElementForm t = true ∧ ¬ [':', ':'] <+: t := by
  obtain ⟨hpseudo, rfl⟩ := eq_split_of_ofText h
  obtain ⟨c, body, hc, hbody, -, rfl⟩ := exists_body hpseudo
  rw [colons_split]
  rcases hc with _ | _
  · have hlead : ¬ [':', ':'] <+: ':' :: body := by
      rintro ⟨u, heq⟩
      exact hbody u (List.cons.inj heq).2.symm
    rw [List.singleton_append, colonsOf?_one hbody, hasElementForm_cons hbody]
    simp [hlead]
  · rw [colonsOf?_two]
    simp

theorem category_of_one (h : ofText t = .ok (some p)) (hc : Classification.ofText t = .ok c)
    (hone : p.colons = some .one) : c.category = .pseudoElement := by
  obtain ⟨c', hc', hpseudo, -⟩ := classification_of_ofText h
  obtain rfl : c' = c := Except.ok.inj (hc'.symm.trans hc)
  rw [category_of_isPseudo hc hpseudo, if_pos ((colons_eq_one_iff h).1 hone).1]

theorem colons_eq_two_iff (h : ofText t = .ok (some p)) :
    p.colons = some .two ↔ ∃ name ∈ legacyElements, ∃ u, Text.sameIgnoringCase name.toList u = true ∧
      t = ':' :: ':' :: u := by
  obtain ⟨hpseudo, rfl⟩ := eq_split_of_ofText h
  obtain ⟨c, body, hc, hbody, -, rfl⟩ := exists_body hpseudo
  rw [colons_split]
  rcases hc with _ | _
  · rw [List.singleton_append, colonsOf?_one hbody]
    simp [hbody]
  · rw [colonsOf?_two]
    simp [Text.isListed]

end Pseudo

/-! ### Warnings about a token -/

namespace Command

/-- The component that warns about selectors. -/
def component : Text :=
  "Selectors".toList

def colonWarning (token : Text) : Text :=
  "`".toList ++ token ++ "` uses the legacy single-colon pseudo-element syntax".toList

def vendorWarning (token vendor : Text) : Text :=
  "`".toList ++ token ++ "` is specific to the `".toList ++ vendor ++ "` vendor".toList

/-- What there is to warn about in a token: its single colon or its vendor, or nothing. -/
def warningOf? (token : Text) : Option Text :=
  match Pseudo.ofText token with
  | .ok (some p) => if p.colons = some .one then some (colonWarning token) else p.vendor.map (vendorWarning token)
  | _ => none

section

variable {token : Text} {p : Pseudo} {c : Classification}

/-- The warning about the colon is given first, then the one about the vendor. -/
theorem lint_of_parts (hc : Classification.ofText token = .ok c) (hp : Pseudo.ofText token = .ok (some p))
    (log : WarningLog) : lint log token =
      let log := if c.category = .pseudoElement && p.colons = some .one then log.warn component (colonWarning token)
        else log
      p.vendor.elim log fun v => log.warn component (vendorWarning token v) := by
  simp only [lint, hc, hp]
  cases p.vendor <;> rfl

theorem lint_of_no_parts (hp : ∀ p, Pseudo.ofText token ≠ .ok (some p)) (log : WarningLog) : lint log token = log := by
  unfold lint
  split
  · rename_i hp'
    exact absurd hp' (hp _)
  · rfl

theorem warningOf?_of_no_parts (hp : ∀ p, Pseudo.ofText token ≠ .ok (some p)) : warningOf? token = none := by
  unfold warningOf?
  split
  · rename_i hp'
    exact absurd hp' (hp _)
  · rfl

end

/-- Looking at a token gives one warning at most. -/
theorem lint_eq (log : WarningLog) (token : Text) :
    lint log token = (warningOf? token).elim log (log.warn component) := by
  by_cases h : ∃ p, Pseudo.ofText token = .ok (some p)
  · obtain ⟨p, hp⟩ := h
    obtain ⟨c, hc, -, -⟩ := Pseudo.classification_of_ofText hp
    rw [lint_of_parts hc hp, warningOf?, hp]
    cases hv : p.vendor with
    | some v =>
      -- no colons are counted, so the first warning is not given
      simp [hv, (Pseudo.entries_of_vendor hp hv).2]
    | none =>
      by_cases hone : p.colons = some .one
      · simp [hone, Pseudo.category_of_one hp hc hone]
      · simp [hone, hv]
  · rw [not_exists] at h
    rw [lint_of_no_parts h, warningOf?_of_no_parts h]
    rfl

end Command

/-- At most one of vendor, argument and number of colons is there.  One colon is counted exactly in the pseudo-elements
that are not written with two, and two exactly before the names that may have one.  So about each token there is one
warning at most. -/
theorem Pseudo.entries_exclusive (t : Text) :
    (∀ p, ofText t = .ok (some p) →
      [p.vendor.isSome, p.argument.isSome, p.colons.isSome].count true ≤ 1 ∧
      (p.colons = some .one ↔
        (∃ c, Classification.ofText t = .ok c ∧ c.category = .pseudoElement) ∧ ¬ [':', ':'] <+: t) ∧
      (p.colons = some .two ↔ ∃ name ∈ legacyElements, ∃ u, Text.sameIgnoringCase name.toList u = true ∧
        t = ':' :: ':' :: u)) ∧
    ∀ log, Command.lint log t = (Command.warningOf? t).elim log (log.warn Command.component) := by
  refine ⟨fun p h => ⟨?_, ?_, colons_eq_two_iff h⟩, fun log => Command.lint_eq log t⟩
  · cases hv : p.vendor with
    | some v =>
      obtain ⟨hargument, hcolons⟩ := entries_of_vendor h hv
      simp [hargument, hcolons]
    | none =>
      cases hn : p.colons with
      | some n => simp [argument_of_colons h hn]
      | none => cases p.argument <;> simp
  · rw [exists_element_iff h, colons_eq_one_iff h]

/-- One colon before a name in capitals. -/
theorem Pseudo.entries_exclusive_of_capitals :
    let t := ":First-LINE".toList
    let p : Pseudo := ⟨none, "First-LINE".toList, none, some .one⟩
    ofText t = .ok (some p) ∧
    [p.vendor.isSome, p.argument.isSome, p.colons.isSome].count true ≤ 1 ∧
    (p.colons = some .one ↔
      (∃ c, Classification.ofText t = .ok c ∧ c.category = .pseudoElement) ∧ ¬ [':', ':'] <+: t) ∧
    (p.colons = some .two ↔ ∃ name ∈ legacyElements, ∃ u, Text.sameIgnoringCase name.toList u = true ∧
      t = ':' :: ':' :: u) ∧
    (∀ log, Command.lint log t = (Command.warningOf? t).elim log (log.warn Command.component)) ∧
    Command.warningOf? t = some (Command.colonWarning t) := by
  intro t p
  obtain ⟨hentries, hlint⟩ := entries_exclusive t
  have h : ofText t = .ok (some p) := by decide +kernel
  obtain ⟨hcount, hone, htwo⟩ := hentries p h
  exact ⟨h, hcount, hone, htwo, hlint, by decide +kernel⟩

end SelectorSyntax
