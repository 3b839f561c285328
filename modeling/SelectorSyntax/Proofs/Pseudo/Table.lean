import SelectorSyntax.Proofs.Grammar.Argument
import SelectorSyntax.Proofs.Text.Case
import SelectorSyntax.Proofs.Validation.Judgement

/-!
# The tables of pseudos and the grammar

The tables cut a pseudo by hand: at its colons, at the first parenthesis and before the last.  What they accept is put
together again (`Pseudo.KnownClass`, `Pseudo.KnownElement`), and is a pseudo of the grammar but no negation: the name
of a negation has three letters or an escape, and no name in the tables is like that.

So the tables refine the classification, and a pseudo is valid exactly if its table accepts it
(`Pseudo.known_iff_classified`).
-/

namespace SelectorSyntax

open SelectorSyntax.Derivation

variable {t name rest : Text}

/-! ### Names of negations -/

theorem Derivation.Letter.length_eq_one {cases : List Char} {codes : List Text} {afterBackslash : Prop}
    (h : Letter cases codes afterBackslash t) (hbackslash : '\\' ∉ t) : t.length = 1 := by
  rcases h with _ | _ | _
  · rfl
  · simp at hbackslash
  · simp at hbackslash

/-- The name of a negation ends at the first parenthesis.  It has three letters, unless one of them is escaped. -/
theorem Derivation.Negation.exists_name (h : Derivation.Negation t) : ∃ name rest,
    t = ':' :: (name ++ '(' :: rest) ∧ '(' ∉ name ∧ ('\\' ∉ name → name.length = 3) ∧
      ∃ c u, name = c :: u ∧ (c = '\\' ∨ c = 'n' ∨ c = 'N') := by
  obtain @⟨h, a, x, b, hh, ha, hx, hb⟩ := h
  obtain ⟨v, hv, heq⟩ := hh.eq_append
  obtain @⟨n, o, u, hn, ho, hu⟩ := hh
  obtain rfl : ':' :: (n ++ o ++ u) = v := List.append_cancel_right heq
  refine ⟨n ++ o ++ u, a ++ x ++ b ++ [')'], by simp, fun h => hv (.tail _ h), ?_, ?_⟩
  · intro hbackslash
    simp only [List.mem_append, not_or] at hbackslash
    have hn := Letter.length_eq_one hn hbackslash.1.1
    have ho := Letter.length_eq_one ho hbackslash.1.2
    have hu := Letter.length_eq_one hu hbackslash.2
    simp [hn, ho, hu]
  · rw [List.append_assoc]
    rcases hn with hc | _ | _
    · exact ⟨_, _, rfl, .inr (by simpa using hc)⟩
    · exact ⟨_, _, rfl, .inl rfl⟩
    · exact ⟨_, _, rfl, .inl rfl⟩

theorem not_negation_of_word (hword : Text.IsWord name) (hlength : name.length ≠ 3) :
    ¬ Derivation.Negation (':' :: (name ++ '(' :: rest)) := by
  intro h
  obtain ⟨name', rest', heq, hparen, hletters, -⟩ := h.exists_name
  have hname : '(' ∉ name := hword.not_mem (by decide)
  have hcut : some (name, rest) = some (name', rest') := by
    rw [← Text.cutAt?_append hname, (List.cons.inj heq).2, Text.cutAt?_append hparen]
  obtain ⟨rfl, -⟩ : name = name' ∧ rest = rest' := by simpa using hcut
  exact hlength (hletters (hword.not_mem (by decide)))

theorem not_negation_of_not_mem (hparen : '(' ∉ t) : ¬ Derivation.Negation t := by
  intro h
  obtain ⟨name, rest, rfl, -⟩ := h.exists_name
  simp at hparen

/-- A vendor's mark does not begin the name of a negation. -/
theorem Derivation.VendorPseudo.not_negation (h : VendorPseudo t) : ¬ Derivation.Negation t := by
  intro hnegation
  obtain ⟨name, rest, heq, -, -, d, v, rfl, hd⟩ := hnegation.exists_name
  obtain ⟨c, m, u, hc, hm, rfl⟩ := h.exists_mark
  rcases hc with _ | _
  · obtain rfl : m = d := (List.cons.inj (List.cons.inj heq).2).1
    rcases hm with rfl | rfl <;> simp at hd
  · obtain rfl : ':' = d := (List.cons.inj (List.cons.inj heq).2).1
    simp at hd

namespace Pseudo

/-! ### Known classes and elements -/

/-- A pseudo-class of the tables, put together from its parts. -/
inductive KnownClass : Text → Prop
  | lang {t : Text} : Lang t → KnownClass t
  | nth {name argument : Text} : Text.isListed nthClasses name = true → Nth argument →
      KnownClass (':' :: (name ++ '(' :: (argument ++ [')'])))
  | simple {name : Text} : Text.isListed simpleClasses name = true → KnownClass (':' :: name)
  | vendor {name : Text} : VendorPseudo (':' :: name) → (∀ u, name ≠ ':' :: u) → KnownClass (':' :: name)

/-- A pseudo-element of the tables. -/
inductive KnownElement : Text → Prop
  | legacy {c name : Text} : Derivation.Colons c → Text.isListed legacyElements name = true → KnownElement (c ++ name)
  | vendor {t : Text} : VendorPseudo t → KnownElement t

theorem knownClass_of_isValidClass (h : isValidClass t = true) : KnownClass t := by
  unfold isValidClass at h
  split at h
  · cases h
  · rename_i body hbody
    split at h
    · -- a call, cut at its parentheses
      rename_i name rest hcut
      obtain ⟨-, rfl⟩ := Text.cutAt?_eq_some_iff.1 hcut
      split at h
      · rename_i argument hargument
        obtain rfl := Text.dropEnd?_eq_some_iff.1 hargument
        unfold acceptsArgument at h
        split at h
        · rw [Production.accepts_iff_matches, Production.matches_pattern] at h
          exact .lang h
        · rw [Bool.and_eq_true, Production.accepts_iff_matches, Production.matches_pattern] at h
          exact .nth h.1 h.2
      · cases h
    · rw [Bool.or_eq_true, Production.accepts_iff_matches, Production.matches_pattern] at h
      rcases h with h | h
      · exact .simple h
      · exact .vendor h fun u hu => hbody u hu
  · cases h

/-- The table of elements has the legacy names after one colon and after two. -/
theorem exists_legacy_of_elements : ∀ element ∈ elements, ∃ name ∈ legacyElements,
    element.toList = ':' :: name.toList ∨ element.toList = ':' :: ':' :: name.toList := by
  decide

theorem knownElement_of_isValidElement (h : isValidElement t = true) : KnownElement t := by
  rw [isValidElement, Bool.or_eq_true, Production.accepts_iff_matches, Production.matches_pattern] at h
  rcases h with h | h
  · obtain ⟨element, hmem, heq⟩ := Text.isListed_iff.1 h
    obtain ⟨name, hname, helement⟩ := exists_legacy_of_elements element hmem
    have hcolon : ¬ IsLetter ':' := by decide
    rcases helement with helement | helement
    · rw [helement] at heq
      obtain ⟨u, rfl, hu⟩ := Text.eq_cons_of_lower hcolon heq.symm
      exact .legacy .one (Text.isListed_iff.2 ⟨name, hname, hu.symm⟩)
    · rw [helement] at heq
      obtain ⟨u, rfl, hu⟩ := Text.eq_cons_of_lower hcolon heq.symm
      obtain ⟨v, rfl, hv⟩ := Text.eq_cons_of_lower hcolon hu
      exact .legacy .two (Text.isListed_iff.2 ⟨name, hname, hv.symm⟩)
  · exact .vendor h

/-! ### What is known is a pseudo -/

/-- The names in the tables are words. -/
theorem isWord_of_table {names : List String} (hnames : names ∈ [legacyElements, simpleClasses, nthClasses])
    (h : Text.isListed names name = true) : Text.IsWord name := by
  have hwords : ∀ names ∈ [legacyElements, simpleClasses, nthClasses], ∀ name ∈ names,
      Text.IsWord (Text.lower name.toList) := by decide
  exact .of_lower (Text.lower_of_isListed (hwords names hnames) h)

theorem KnownClass.pseudo (h : KnownClass t) : Derivation.Pseudo t := by
  rcases h with h | ⟨hname, hargument⟩ | hname | ⟨h, -⟩
  · exact h.pseudo
  · obtain ⟨a, e, ha, he, rfl⟩ := hargument.expression
    exact .functional .one (.mk (isWord_of_table (by simp) hname).ident ha he)
  · exact .ident .one (isWord_of_table (by simp) hname).ident
  · exact h.pseudo

theorem KnownClass.not_negation (h : KnownClass t) : ¬ Derivation.Negation t := by
  rcases h with h | ⟨hname, hargument⟩ | hname | ⟨h, -⟩
  · obtain ⟨name, i, hname, hlength, -, rfl⟩ := h.exists_name
    exact not_negation_of_word hname (by omega)
  · -- the shortest of these names is `nth-child`
    have hlength := Text.lower_of_isListed (Q := fun s => 9 ≤ s.length) (by decide) hname
    rw [Text.lower, List.length_map] at hlength
    exact not_negation_of_word (isWord_of_table (by simp) hname) (by omega)
  · refine not_negation_of_not_mem ?_
    have hparen := (isWord_of_table (by simp) hname).not_mem (c := '(') (by decide)
    simpa using hparen
  · exact h.not_negation

theorem hasElementForm_cons (hname : ∀ u, name ≠ ':' :: u) :
    hasElementForm (':' :: name) = Text.isListed legacyElements name := by
  rw [hasElementForm]
  exact hname

theorem hasElementForm_of_call (hname : Text.IsWord name) : hasElementForm (':' :: (name ++ '(' :: rest)) = false := by
  rw [hasElementForm_cons (hname.append_ne_cons (by decide) _), ← Bool.not_eq_true]
  intro h
  exact (isWord_of_table (by simp) h).not_mem (c := '(') (by decide) (by simp)

/-- No name of a pseudo-element or of a pseudo-class with an argument has a vendor's mark. -/
theorem isListed_of_mark {m : Char} (names : List String) (hnames : names ∈ [legacyElements, ["lang"], nthClasses])
    (hm : m = '-' ∨ m = '_') (u : Text) : Text.isListed names (m :: u) = false := by
  have hheads : ∀ names ∈ [legacyElements, ["lang"], nthClasses], ∀ name ∈ names,
      (Text.lower name.toList).head? ≠ some '-' ∧ (Text.lower name.toList).head? ≠ some '_' := by decide
  rw [← Bool.not_eq_true]
  intro hlisted
  have hhead := Text.lower_of_isListed (Q := fun s => s.head? ≠ some '-' ∧ s.head? ≠ some '_') (hheads names hnames)
    hlisted
  rcases hm with rfl | rfl
  · exact hhead.1 rfl
  · exact hhead.2 rfl

theorem isListed_legacyElements_of_vendor (h : VendorPseudo (':' :: name)) (hname : ∀ u, name ≠ ':' :: u) :
    Text.isListed legacyElements name = false := by
  obtain ⟨c, m, u, hc, hm, heq⟩ := h.exists_mark
  rcases hc with _ | _
  · obtain rfl : name = m :: u := (List.cons.inj heq).2
    exact isListed_of_mark legacyElements (by simp) hm u
  · exact absurd (List.cons.inj heq).2 (hname _)

theorem KnownClass.hasElementForm_eq (h : KnownClass t) : hasElementForm t = false := by
  rcases h with h | ⟨hname, hargument⟩ | @⟨name, hname⟩ | ⟨h, hcolon⟩
  · obtain ⟨name, i, hname, -, -, rfl⟩ := h.exists_name
    exact hasElementForm_of_call hname
  · exact hasElementForm_of_call (isWord_of_table (by simp) hname)
  · have hcolon (u : Text) : name ≠ ':' :: u := by
      simpa using (isWord_of_table (by simp) hname).append_ne_cons (c := ':') (by decide) [] u
    rw [hasElementForm_cons hcolon]
    exact Text.isListed_eq_false (by decide) hname
  · rw [hasElementForm_cons hcolon]
    exact isListed_legacyElements_of_vendor h hcolon

theorem KnownElement.pseudo (h : KnownElement t) : Derivation.Pseudo t := by
  rcases h with ⟨hc, hname⟩ | h
  · exact .ident hc (isWord_of_table (by simp) hname).ident
  · exact h.pseudo

theorem KnownElement.not_negation (h : KnownElement t) : ¬ Derivation.Negation t := by
  rcases h with ⟨hc, hname⟩ | h
  · refine not_negation_of_not_mem ?_
    have hparen := (isWord_of_table (by simp) hname).not_mem (c := '(') (by decide)
    rcases hc with _ | _
    · simpa using hparen
    · simpa using hparen
  · exact h.not_negation

/-! ### Classification -/

variable {c : Classification}

theorem isKind_of_known (h : KnownClass t ∨ KnownElement t) : Token.IsKind .pseudo t := by
  rcases h with h | h
  · exact ⟨by decide, h.pseudo, fun _ => h.not_negation⟩
  · exact ⟨by decide, h.pseudo, fun _ => h.not_negation⟩

section

variable {M : Type → Type} [Monad M] {v : Validator M}

theorem judge_of_class (hc : Classification.ofText t = .ok c) (hcategory : c.category = .pseudoClass) :
    v.judge t = pure (isValidClass t) := by
  have hne : c.category ≠ .negation := by simp [hcategory]
  rw [Validator.judge_of_ne_negation hc hne, hcategory]
  rfl

theorem judge_of_element (hc : Classification.ofText t = .ok c) (hcategory : c.category = .pseudoElement) :
    v.judge t = pure (isValidElement t) := by
  have hne : c.category ≠ .negation := by simp [hcategory]
  rw [Validator.judge_of_ne_negation hc hne, hcategory]
  rfl

end

theorem isValidSelector_of_class (hc : Classification.ofText t = .ok c) (hcategory : c.category = .pseudoClass) :
    isValidSelector false t = isValidClass t := by
  rw [isValidSelector, judge_of_class hc hcategory]
  rfl

theorem isValidSelector_of_element (hc : Classification.ofText t = .ok c) (hcategory : c.category = .pseudoElement) :
    isValidSelector false t = isValidElement t := by
  rw [isValidSelector, judge_of_element hc hcategory]
  rfl

theorem hasElementForm_of_classification (hc : Classification.ofText t = .ok c)
    (hcategory : c.category = .pseudoElement) : hasElementForm t = true := by
  have hform := (Token.isKind_of_classification hc).2
  rw [hcategory] at hform
  simpa [Token.productionOf, Token.categoryAs] using hform

/-- The tables accept exactly the valid pseudo-classes and pseudo-elements, and nothing but pseudos of the grammar that
are no negations. -/
theorem known_iff_classified (t : Text) :
    (isValidClass t = true ↔
      (∃ c, Classification.ofText t = .ok c ∧ c.category = .pseudoClass) ∧ isValidSelector false t = true) ∧
    (isValidElement t = true ∧ hasElementForm t = true ↔
      (∃ c, Classification.ofText t = .ok c ∧ c.category = .pseudoElement) ∧ isValidSelector false t = true) ∧
    (isValidClass t = true ∨ isValidElement t = true →
      Production.pseudo.accepts t = true ∧ Production.negation.accepts t = false) := by
  refine ⟨⟨?_, ?_⟩, ⟨?_, ?_⟩, ?_⟩
  · intro h
    have hknown := knownClass_of_isValidClass h
    have hcategory : Token.categoryAs t .pseudo = some .pseudoClass := by
      simp [Token.categoryAs, hknown.hasElementForm_eq]
    have hc := Token.classification_of_categoryAs (isKind_of_known (.inl hknown)) hcategory
    exact ⟨⟨_, hc, rfl⟩, by rw [isValidSelector_of_class hc rfl, h]⟩
  · rintro ⟨⟨c, hc, hcategory⟩, h⟩
    rwa [isValidSelector_of_class hc hcategory] at h
  · rintro ⟨h, hform⟩
    have hknown := knownElement_of_isValidElement h
    have hcategory : Token.categoryAs t .pseudo = some .pseudoElement := by
      simp [Token.categoryAs, hform]
    have hc := Token.classification_of_categoryAs (isKind_of_known (.inr hknown)) hcategory
    exact ⟨⟨_, hc, rfl⟩, by rw [isValidSelector_of_element hc rfl, h]⟩
  · rintro ⟨⟨c, hc, hcategory⟩, h⟩
    rw [isValidSelector_of_element hc hcategory] at h
    exact ⟨h, hasElementForm_of_classification hc hcategory⟩
  · intro h
    have hkind := isKind_of_known (h.imp knownClass_of_isValidClass knownElement_of_isValidElement)
    refine ⟨hkind.accepts, ?_⟩
    rw [← Bool.not_eq_true, Production.accepts_iff_matches, Production.matches_pattern]
    exact hkind.not_negation rfl

end Pseudo

end SelectorSyntax
