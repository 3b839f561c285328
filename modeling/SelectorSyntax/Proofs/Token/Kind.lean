import SelectorSyntax.Proofs.Grammar.Trimming
import SelectorSyntax.Proofs.Token.Selector

/-!
# The kind of a token

The classifier tries productions in one order and on whole texts, the tokens are cut off with the longest match and
in another order.  They agree, because a text is an instance of at most one production of tokens, but for negations,
which are pseudos as well and come first in both orders.

* The first character tells productions apart (`familyOf_of_derives`), except a type selector from a universal one,
  which are told apart by their ends (`TypeSelector.not_universal`).
* So a text has at most one kind (`IsKind.unique`).  Every order with negations before pseudos finds it
  (`IsOrder.find?_eq_some_iff`), and so does the classifier (`categoryOf?_of_isKind`).
-/

namespace SelectorSyntax

namespace Derivation

variable {t : Text}

/-- A name never ends with the sign for any element, not even after a namespace. -/
theorem TypeSelector.not_universal (h : TypeSelector t) : ¬ Universal t := by
  intro hu
  obtain @⟨n, i, hn, hi⟩ := h
  generalize ht : n ++ i = t at hu
  obtain @⟨m, hm⟩ := hu
  have hstar : ¬ Ident ['*'] := by
    intro h
    obtain ⟨c, u, heq, hc⟩ := h.head
    obtain rfl := (List.cons.inj heq).1
    exact absurd hc (by decide)
  rcases hn with _ | hn <;> rcases hm with _ | hm
  · obtain rfl : i = ['*'] := ht
    exact hstar hi
  · -- the bar would belong to the name
    exact Token.not_prefix_of_namespace (z := []) hm (.inl hi) ⟨['*'], by simpa using ht.symm⟩
  · -- a namespace and a name have two characters at least
    obtain ⟨c, u, rfl, -⟩ := hn.head
    obtain ⟨d, v, rfl, -⟩ := hi.head
    simpa using congrArg List.length ht
  · obtain rfl := Rule.prefixFree_namespaceQualifier.eq_of_prefix hn ⟨i, ht⟩ hm (List.prefix_append ..)
    exact hstar (List.append_cancel_left ht ▸ hi)

/-- Without the blanks around it a combinator is its symbol, or nothing. -/
theorem Combinator.trim_eq (h : Combinator t) : Blanks t ∧ Text.trim t = [] ∨
    ∃ a b c, Blanks a ∧ (c = '+' ∨ c = '>' ∨ c = '~') ∧ Blanks b ∧ t = a ++ c :: b ∧ Text.trim t = [c] := by
  rcases h with @⟨a, b, c, ha, hc, hb⟩ | ⟨h, -⟩
  · have hblank : ¬ Text.isBlank c := Rule.not_isBlank_of_symbol hc
    have htrim : Text.trim (a ++ c :: b) = [c] := by
      rw [Text.trim, List.dropWhile_append_of_pos ha, List.dropWhile_cons_of_neg hblank,
        show c :: b = [c] ++ b from rfl, Text.trimEnd_append_blanks hb]
      exact Text.trimEnd_concat_of_not_blank (t := []) hblank
    exact .inr ⟨a, b, c, ha, hc, hb, rfl, htrim⟩
  · have hdrop : (t ++ []).dropWhile Text.isBlank = [] := List.dropWhile_append_of_pos h
    rw [List.append_nil] at hdrop
    rw [Text.trim, hdrop]
    exact .inl ⟨h, rfl⟩

/-- A combinator stays one without the blanks around its symbol, and without a symbol as a single blank. -/
theorem Combinator.trim (h : Combinator t) : Text.trim t = [] ∨ Combinator (Text.trim t) := by
  rcases h.trim_eq with ⟨-, htrim⟩ | ⟨a, b, c, -, hc, -, -, htrim⟩
  · exact .inl htrim
  · rw [htrim]
    exact .inr (.symbol (a := []) (b := []) (by decide) hc (by decide))

end Derivation

namespace Token

open SelectorSyntax.Derivation

variable {t x : Text} {c : Char} {p q : Production}

/-! ### First characters -/

/-- Productions whose instances may begin alike belong to one family. -/
def family : Production → Production
  | .universal => .typeSelector
  | .negation => .pseudo
  | p => p

/-- The family of the tokens that begin with a character. -/
def familyOf (c : Char) : Production :=
  if c = '#' then .idSelector
  else if c = '.' then .classSelector
  else if c = '[' then .attrib
  else if c = ':' then .pseudo
  else if IsCombinatorChar c then .combinator
  else .typeSelector

theorem familyOf_of_element (hc : IsElementHead c) : familyOf c = .typeSelector := by
  have hk : ¬ IsCombinatorChar c := not_isCombinatorChar_of_head (.inl hc)
  have hq : c ≠ '#' ∧ c ≠ '.' ∧ c ≠ '[' ∧ c ≠ ':' := by
    refine ⟨?_, ?_, ?_, ?_⟩ <;> rintro rfl <;> exact absurd hc (by decide)
  simp [familyOf, hk, hq]

theorem familyOf_of_combinator (hc : IsCombinatorChar c) : familyOf c = .combinator := by
  have hq : c ≠ '#' ∧ c ≠ '.' ∧ c ≠ '[' ∧ c ≠ ':' := by
    refine ⟨?_, ?_, ?_, ?_⟩ <;> rintro rfl <;> exact absurd hc (by decide)
  simp [familyOf, hc, hq]

theorem familyOf_of_derives (hp : p ∈ productions) (h : p.Derives (c :: x)) : familyOf c = family p := by
  have helement (h : TypeSelector (c :: x) ∨ Universal (c :: x)) : familyOf c = .typeSelector := by
    obtain ⟨d, u, heq, hd⟩ := head_of_element h
    exact familyOf_of_element ((List.cons.inj heq).1 ▸ hd)
  have hcolon {u : Text} (heq : c :: x = ':' :: u) : familyOf c = .pseudo := by
    rw [(List.cons.inj heq).1]
    rfl
  simp only [productions, List.mem_cons, List.not_mem_nil, or_false] at hp
  rcases hp with rfl | rfl | rfl | rfl | rfl | rfl | rfl | rfl
  · exact helement (.inl h)
  · exact helement (.inr h)
  · obtain ⟨-⟩ := h
    rfl
  · obtain ⟨-⟩ := h
    rfl
  · obtain ⟨-, -, -, -, -⟩ := h
    rfl
  · obtain ⟨u, heq⟩ := (Derivation.Negation.called h).head
    exact hcolon heq
  · obtain ⟨u, heq⟩ := Derivation.Pseudo.head h
    exact hcolon heq
  · exact familyOf_of_combinator (Combinator.forall_mem h c (by simp))

/-! ### Kinds -/

theorem IsKind.unique (hp : IsKind p x) (hq : IsKind q x) : p = q := by
  have hpairs : ∀ p ∈ productions, ∀ q ∈ productions, family p = family q →
      p = q ∨ (p = .typeSelector ∧ q = .universal ∨ p = .universal ∧ q = .typeSelector) ∨
        (p = .negation ∧ q = .pseudo ∨ p = .pseudo ∧ q = .negation) := by decide
  have hfamily : family p = family q := by
    obtain ⟨c, u, rfl⟩ := List.exists_cons_of_ne_nil hp.ne_nil
    rw [← familyOf_of_derives hp.mem hp.derives, ← familyOf_of_derives hq.mem hq.derives]
  rcases hpairs p hp.mem q hq.mem hfamily with h | (⟨rfl, rfl⟩ | ⟨rfl, rfl⟩) | (⟨rfl, rfl⟩ | ⟨rfl, rfl⟩)
  · exact h
  · exact absurd hq.derives (TypeSelector.not_universal hp.derives)
  · exact absurd hp.derives (TypeSelector.not_universal hq.derives)
  · exact absurd hp.derives (hq.not_negation rfl)
  · exact absurd hq.derives (hp.not_negation rfl)

/-- An order in which the productions of tokens may be tried. -/
structure IsOrder (tests : List Production) : Prop where
  perm : tests.Perm productions
  negation_before : [.negation, .pseudo].Sublist tests

section

variable {tests : List Production} (hs : IsOrder tests)

include hs

theorem IsOrder.find?_ne_pseudo (hn : Derivation.Negation x) : tests.find? (·.accepts x) ≠ some .pseudo := by
  have hacc : Production.negation.accepts x = true := by
    rw [Production.accepts_iff_matches, Production.matches_pattern]
    exact hn
  have hnodup : tests.Nodup := hs.perm.nodup_iff.2 (by decide)
  obtain ⟨before, after, rfl, hbefore, hafter⟩ := List.cons_sublist_iff.1 hs.negation_before
  intro h
  rw [List.find?_append, Option.or_eq_some_iff] at h
  rcases h with h | ⟨h, -⟩
  · -- pseudos come after negations, and they come once
    have hpseudo := List.mem_of_find?_eq_some h
    exact (List.nodup_append.1 hnodup).2.2 _ hpseudo _ (List.singleton_sublist.1 hafter) rfl
  · exact absurd hacc (by simpa using List.find?_eq_none.1 h _ hbefore)

/-- The earliest production that accepts a text is its kind. -/
theorem IsOrder.find?_eq_some_iff : tests.find? (·.accepts x) = some p ↔ IsKind p x := by
  have hkind {q : Production} (h : tests.find? (·.accepts x) = some q) : IsKind q x := by
    have hq : q.accepts x = true := by simpa using List.find?_some h
    rw [Production.accepts_iff_matches, Production.matches_pattern] at hq
    refine ⟨hs.perm.mem_iff.1 (List.mem_of_find?_eq_some h), hq, ?_⟩
    rintro rfl hn
    exact hs.find?_ne_pseudo hn h
  constructor
  · exact hkind
  · intro h
    cases hfind : tests.find? (·.accepts x) with
    | none => exact absurd h.accepts (by simpa using List.find?_eq_none.1 hfind p (hs.perm.mem_iff.2 h.mem))
    | some q => rw [(hkind hfind).unique h]

end

theorem find?_productions_eq_some_iff : productions.find? (·.accepts x) = some p ↔ IsKind p x :=
  IsOrder.find?_eq_some_iff ⟨.refl _, by decide⟩

theorem IsFirst.isKind (h : IsFirst t p x) : IsKind p x :=
  find?_productions_eq_some_iff.1 h.earliest

/-! ### Categories -/

/-- The category of the instances of a production that tokens are instances of; that of a pseudo depends on its form. -/
def categoryAs (t : Text) : Production → Option Category
  | .typeSelector => some .typeSelector
  | .universal => some .universal
  | .classSelector => some .classSelector
  | .idSelector => some .idSelector
  | .attrib => some .attribute
  | .negation => some .negation
  | .combinator => some .combinator
  | .pseudo => some (if Pseudo.hasElementForm t then .pseudoElement else .pseudoClass)
  | _ => none

theorem exists_categoryAs (t : Text) (hp : p ∈ productions) : ∃ category, categoryAs t p = some category := by
  simp only [productions, List.mem_cons, List.not_mem_nil, or_false] at hp
  rcases hp with rfl | rfl | rfl | rfl | rfl | rfl | rfl | rfl <;> exact ⟨_, rfl⟩

/-- The order of the classifier has all productions of tokens but pseudos, each with its category. -/
theorem mem_order_iff (t : Text) {category : Category} :
    (p, category) ∈ Classification.order ↔ p ∈ productions ∧ p ≠ .pseudo ∧ categoryAs t p = some category := by
  cases p <;> simp [Classification.order, productions, categoryAs] <;> exact eq_comm

/-- The classifier finds the kind of a text. -/
theorem categoryOf?_of_isKind (h : IsKind p x) : Classification.categoryOf? x = categoryAs x p := by
  unfold Classification.categoryOf?
  split
  · rename_i q category hfind
    obtain ⟨hmem, hne, hcategory⟩ := (mem_order_iff x).1 (List.mem_of_find?_eq_some hfind)
    have hacc : q.accepts x = true := by simpa using List.find?_some hfind
    rw [Production.accepts_iff_matches, Production.matches_pattern] at hacc
    have hkind : IsKind q x := isKind_of_ne_pseudo hmem hne hacc
    rw [← hkind.unique h, hcategory]
  · -- no production before pseudos accepts the text, so it is a pseudo
    rename_i hnone
    have hpseudo : p = .pseudo := by
      by_contra hne
      obtain ⟨category, hcategory⟩ := exists_categoryAs x h.mem
      have hmem := (mem_order_iff x).2 ⟨h.mem, hne, hcategory⟩
      exact List.find?_eq_none.1 hnone _ hmem h.accepts
    subst hpseudo
    rw [if_pos h.accepts]
    rfl

theorem accepted_of_categoryOf? {category : Category} (h : Classification.categoryOf? x = some category) :
    Accepted x := by
  unfold Classification.categoryOf? at h
  split at h
  · rename_i hfind
    obtain ⟨hmem, -, -⟩ := (mem_order_iff x).1 (List.mem_of_find?_eq_some hfind)
    exact ⟨_, hmem, by simpa using List.find?_some hfind⟩
  · split at h
    · rename_i hacc
      exact ⟨.pseudo, by decide, hacc⟩
    · cases h

/-- What has a kind is classified by it. -/
theorem classification_of_categoryAs {category : Category} (h : IsKind p x)
    (hcategory : categoryAs x p = some category) :
    Classification.ofText x = .ok ⟨category, Classification.qualifierOf x category⟩ := by
  have hne : x.isEmpty = false := by simpa using h.ne_nil
  simp [Classification.ofText, hne, categoryOf?_of_isKind h, hcategory]

theorem classification_of_isKind (h : IsKind p x) :
    ∃ c, Classification.ofText x = .ok c ∧ categoryAs x p = some c.category := by
  obtain ⟨category, hcategory⟩ := exists_categoryAs x h.mem
  exact ⟨_, classification_of_categoryAs h hcategory, hcategory⟩

theorem exists_isKind_of_classification {c : Classification} (h : Classification.ofText x = .ok c) :
    ∃ p, IsKind p x := by
  unfold Classification.ofText at h
  split at h
  · cases h
  · split at h
    · rename_i hcategory
      exact exists_isKind (accepted_of_categoryOf? hcategory)
    · cases h

/-- The production that the selectors of a category are instances of. -/
def productionOf : Category → Production
  | .combinator => .combinator
  | .typeSelector => .typeSelector
  | .universal => .universal
  | .classSelector => .classSelector
  | .idSelector => .idSelector
  | .attribute => .attrib
  | .negation => .negation
  | .pseudoClass | .pseudoElement => .pseudo

theorem eq_productionOf {category : Category} (h : categoryAs t p = some category) : p = productionOf category := by
  cases p with
  | pseudo =>
    simp only [categoryAs, Option.some.injEq] at h
    split at h <;> rw [← h] <;> rfl
  | ident | string | namespaceQualifier | expression | functionalPseudo | negationArg | simpleSelectorSequence |
    selector | selectorsGroup | nth | lang | vendorPseudo => cases h
  | _ =>
    simp only [categoryAs, Option.some.injEq] at h
    rw [← h]
    rfl

/-- What is classified is an instance of the production of its category. -/
theorem isKind_of_classification {c : Classification} (h : Classification.ofText x = .ok c) :
    IsKind (productionOf c.category) x ∧ categoryAs x (productionOf c.category) = some c.category := by
  obtain ⟨p, hp⟩ := exists_isKind_of_classification h
  obtain ⟨c', hc', hcategory⟩ := classification_of_isKind hp
  obtain rfl : c = c' := by simpa [h] using hc'
  rw [← eq_productionOf hcategory]
  exact ⟨hp, hcategory⟩

theorem isEmpty_of_classification {c : Classification} (h : Classification.ofText x = .ok c) : x.isEmpty = false := by
  simpa using (isKind_of_classification h).1.ne_nil

theorem classification_of_not_accepted (h : ¬ Accepted x) : Classification.ofText x = .error (.noMatch x) := by
  unfold Classification.ofText
  split
  · rfl
  · cases hcategory : Classification.categoryOf? x with
    | none => rfl
    | some category => exact absurd (accepted_of_categoryOf? hcategory) h

/-- The classifier fails in one way only. -/
theorem eq_noMatch_of_classification {e : SelectorError} (h : Classification.ofText x = .error e) : e = .noMatch x := by
  unfold Classification.ofText at h
  split at h
  · cases h
    rfl
  · split at h
    · cases h
    · cases h
      rfl

/-! ### Tokens -/

/-- A text that has a kind is its own and only token. -/
theorem ofText_of_isKind (h : IsKind p x) : ofText x = .ok [⟨p, 0, x⟩] := by
  have hlongest : Longest Accepted x x := ⟨⟨p, h.mem, h.accepts⟩, List.prefix_refl x, fun _ _ hy => hy.length_le⟩
  have hfirst : IsFirst (x ++ []) p x := by
    rw [List.append_nil]
    exact ⟨hlongest, find?_productions_eq_some_iff.2 h⟩
  have hstop : Cut [] [] [] := .stop fun y hy hnil => hy.ne_nil (List.prefix_nil.1 hnil)
  have hcut : Cut x [(p, x)] [] := by simpa using Cut.step hfirst hstop
  exact ofText_eq_ok_iff.2 ⟨_, hcut, rfl⟩

theorem isKind_of_mem {tokens : List Token} {token : Token} (h : ofText t = .ok tokens) (hmem : token ∈ tokens) :
    IsKind token.production token.raw := by
  obtain ⟨ps, hcut, rfl⟩ := ofText_eq_ok_iff.1 h
  obtain ⟨before, after, heq⟩ := List.append_of_mem hmem
  obtain ⟨-, rest, -, hfirst⟩ := hcut.token heq
  exact hfirst.isKind

theorem raw_of_single {token : Token} (h : ofText t = .ok [token]) : token.raw = t := by
  obtain ⟨ps, hcut, heq⟩ := ofText_eq_ok_iff.1 h
  have hraw := flatMap_raw_place 0 ps
  rw [← heq] at hraw
  rw [hcut.text_eq, ← hraw]
  simp

/-- The text of a token is of the kind that the token is of. -/
theorem isKind_text {token : Token} (h : IsKind token.production token.raw) :
    IsKind token.production token.text := by
  unfold text
  split
  · rename_i hcombinator
    have hp : token.production = .combinator := by simpa [isCombinator] using hcombinator
    rw [hp] at h ⊢
    have hblank : Combinator [' '] := .blanks (by simp [Blanks, Text.isBlank]) (List.cons_ne_nil _ _)
    split
    · exact isKind_of_ne_pseudo (by decide) (by decide) hblank
    · rename_i hne
      exact isKind_of_ne_pseudo (by decide) (by decide) ((Combinator.trim h.derives).resolve_left hne)
  · exact h

/-- A text is classified exactly if it is cut into a single token, and its category is that of the token's production.
The text of every token of a selector is classified, by the token's production again. -/
theorem classification_agrees (t : Text) :
    ((∃ c, Classification.ofText t = .ok c) ↔ ∃ token, ofText t = .ok [token]) ∧
      (∀ c token, Classification.ofText t = .ok c → ofText t = .ok [token] →
        categoryAs t token.production = some c.category) ∧
      ∀ tokens, ofText t = .ok tokens → ∀ token ∈ tokens, ∃ c,
        Classification.ofText token.text = .ok c ∧ categoryAs token.text token.production = some c.category := by
  have hsingle {token : Token} (h : ofText t = .ok [token]) : IsKind token.production t := by
    have hkind := isKind_of_mem h (List.mem_singleton_self _)
    rwa [raw_of_single h] at hkind
  refine ⟨⟨?_, ?_⟩, ?_, ?_⟩
  · intro h
    obtain ⟨c, hc⟩ := h
    obtain ⟨p, hp⟩ := exists_isKind_of_classification hc
    exact ⟨_, ofText_of_isKind hp⟩
  · intro h
    obtain ⟨token, htoken⟩ := h
    obtain ⟨c, hc, -⟩ := classification_of_isKind (hsingle htoken)
    exact ⟨c, hc⟩
  · intro c token hc htoken
    obtain ⟨c', hc', hcategory⟩ := classification_of_isKind (hsingle htoken)
    obtain rfl : c = c' := by simpa [hc] using hc'
    exact hcategory
  · intro tokens htokens token hmem
    exact classification_of_isKind (isKind_text (isKind_of_mem htokens hmem))

end Token

end SelectorSyntax
