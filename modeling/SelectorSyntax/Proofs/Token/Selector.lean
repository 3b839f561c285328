import SelectorSyntax.Proofs.Grammar.Boundary
import SelectorSyntax.Proofs.Token.Munch

/-!
# The tokens of a selector

A grammar may take a selector apart in one way and the longest tokens in another, but they meet: after the first
token of a selector one stands again at a boundary of the grammar (`tokenLeaves_of_selector`), and a combinator is the
one that the grammar has there (`cases_of_follow`).  So every selector has tokens, and they come in the order of the
grammar: simple selectors, and between them single combinators (`InOrder`).
-/

namespace SelectorSyntax.Token

open SelectorSyntax.Derivation

variable {t x r : Text} {c : Char} {p : Production}

/-! ### Kinds of tokens -/

theorem accepted_iff : Accepted x ↔ (TypeSelector x ∨ Universal x) ∨ IdSelector x ∨ ClassSelector x ∨ Attrib x ∨
    Derivation.Negation x ∨ Derivation.Pseudo x ∨ Combinator x := by
  simp only [Accepted, productions, List.mem_cons, List.not_mem_nil, or_false, exists_eq_or_imp, exists_eq_left,
    Production.accepts_iff_matches, Production.matches_pattern, Production.Derives, or_assoc]

theorem Accepted.of_element (h : TypeSelector x ∨ Universal x) : Accepted x :=
  accepted_iff.2 (.inl h)

theorem Accepted.of_qualifier (h : Qualifier x) : Accepted x := by
  rw [accepted_iff]
  rcases h with h | h | h | h | h <;> simp [h]

theorem Accepted.of_combinator (h : Combinator x) : Accepted x := by
  rw [accepted_iff]
  simp [h]

/-- The first character of a token tells its kind. -/
theorem Accepted.of_head (h : Accepted (c :: x)) : IsElementHead c ∧ (TypeSelector (c :: x) ∨ Universal (c :: x)) ∨
    c = '#' ∧ Name x ∨ c = '.' ∧ Ident x ∨ c = '[' ∧ Attrib (c :: x) ∨
    c = ':' ∧ (Derivation.Negation (c :: x) ∨ Derivation.Pseudo (c :: x)) ∨
    IsCombinatorChar c ∧ Combinator (c :: x) := by
  rcases accepted_iff.1 h with h | h | h | h | h | h | h
  · obtain ⟨d, u, heq, hd⟩ := head_of_element h
    exact .inl ⟨(List.cons.inj heq).1 ▸ hd, h⟩
  · cases h with
    | mk hn => exact .inr (.inl ⟨rfl, hn⟩)
  · cases h with
    | mk hi => exact .inr (.inr (.inl ⟨rfl, hi⟩))
  · have hc : c = '[' := by cases h; rfl
    exact .inr (.inr (.inr (.inl ⟨hc, h⟩)))
  · obtain ⟨u, heq⟩ := h.called.head
    exact .inr (.inr (.inr (.inr (.inl ⟨(List.cons.inj heq).1, .inl h⟩))))
  · obtain ⟨u, heq⟩ := h.head
    exact .inr (.inr (.inr (.inr (.inl ⟨(List.cons.inj heq).1, .inr h⟩))))
  · exact .inr (.inr (.inr (.inr (.inr ⟨h.forall_mem c (by simp), h⟩))))

theorem Accepted.balanced (h : Accepted x) : Balanced x := by
  rcases accepted_iff.1 h with (h | h) | h | h | h | h | h | h
  · exact h.balanced
  · exact h.balanced
  · exact h.balanced
  · exact h.balanced
  · exact h.balanced
  · exact h.called.balanced
  · exact h.balanced
  · exact h.balanced

/-- The text is a token of the production.  What is a negation counts as a negation only. -/
structure IsKind (p : Production) (x : Text) : Prop where
  mem : p ∈ productions
  derives : p.Derives x
  not_negation : p = .pseudo → ¬ Derivation.Negation x

theorem isKind_of_ne_pseudo (hp : p ∈ productions) (hne : p ≠ .pseudo) (hx : p.Derives x) : IsKind p x :=
  ⟨hp, hx, fun h => absurd h hne⟩

theorem IsKind.accepts (h : IsKind p x) : p.accepts x = true := by
  rw [Production.accepts_iff_matches, Production.matches_pattern]
  exact h.derives

theorem IsKind.ne_nil (h : IsKind p x) : x ≠ [] :=
  Accepted.ne_nil ⟨p, h.mem, h.accepts⟩

theorem exists_isKind (h : Accepted x) : ∃ p, IsKind p x := by
  obtain ⟨p, hp, hx⟩ := h
  rw [Production.accepts_iff_matches, Production.matches_pattern] at hx
  by_cases hn : Derivation.Negation x
  · exact ⟨.negation, isKind_of_ne_pseudo (by decide) (by decide) hn⟩
  · exact ⟨p, hp, hx, fun _ => hn⟩

/-- Tokens have their escapes with them. -/
theorem Cut.balanced {left : Text} {ps : List (Production × Text)} (h : Cut t ps left) :
    Balanced (ps.flatMap (·.2)) := by
  induction h with
  | stop _ => exact .nil
  | step hx _ ih => exact hx.longest.holds.balanced.append ih

theorem balanced_of_ofText {tokens : List Token} (h : ofText t = .ok tokens) : Balanced t := by
  obtain ⟨ps, hcut, -⟩ := ofText_eq_ok_iff.1 h
  have hbalanced := hcut.balanced
  rwa [show ps.flatMap (·.2) = t by simpa using hcut.text_eq.symm] at hbalanced

/-! ### Simple selectors -/

/-- What a token leaves where a selector begins, by the kind of the token. -/
def TokenLeaves (x r : Text) : Prop :=
  ∃ p, IsKind p x ∧ Leaves p.Derives x r

theorem TokenLeaves.atBoundary (h : TokenLeaves x r) : AtBoundary r := by
  obtain ⟨p, -, h⟩ := h
  exact h.atBoundary

theorem tokenLeaves_of_follow (hx : Accepted x) (hr : Follow r) : TokenLeaves x r := by
  obtain ⟨p, hp⟩ := exists_isKind hx
  exact ⟨p, hp, .inl hr⟩

/-- The longest identifier where an identifier stands. -/
theorem leaves_of_ident {i j : Text} (hi : Ident i) (ht : Follow t) (hj : Longest Ident (i ++ t) j)
    (heq : i ++ t = j ++ r) : Leaves Ident j r := by
  have hname := leaves_of_name hi.many_nameChar ht (longest_many_of_ident (heq ▸ hj)) heq
  exact hname.mono fun g hg => hi.of_prefix hg.1 hg.2

theorem tokenLeaves_of_class (hx : ClassSelector x) (ht : Follow t) {y : Text} (hy : Longest Accepted (x ++ t) y)
    (heq : x ++ t = y ++ r) : TokenLeaves y r := by
  obtain @⟨i, hi⟩ := hx
  obtain ⟨d, j, rfl⟩ := List.exists_cons_of_ne_nil hy.holds.ne_nil
  simp only [List.cons_append, List.cons.injEq] at heq
  obtain ⟨rfl, heq⟩ := heq
  have hj : Ident j := by simpa +decide using hy.holds.of_head
  have hlongest : Longest Ident (i ++ t) j :=
    hy.after (a := ['.']) hj fun z hz => .of_qualifier (.classSelector (.mk hz))
  have hkind : IsKind .classSelector ('.' :: j) := isKind_of_ne_pseudo (by decide) (by decide) (.mk hj)
  have hleaves := leaves_of_ident hi ht hlongest heq
  exact ⟨_, hkind, hleaves.after (a := ['.']) fun g hg => .mk hg⟩

theorem tokenLeaves_of_id (hx : IdSelector x) (ht : Follow t) {y : Text} (hy : Longest Accepted (x ++ t) y)
    (heq : x ++ t = y ++ r) : TokenLeaves y r := by
  obtain @⟨n, hn⟩ := hx
  obtain ⟨d, m, rfl⟩ := List.exists_cons_of_ne_nil hy.holds.ne_nil
  simp only [List.cons_append, List.cons.injEq] at heq
  obtain ⟨rfl, heq⟩ := heq
  have hm : Name m := by simpa +decide using hy.holds.of_head
  have hlongest : Longest Name (n ++ t) m :=
    hy.after (a := ['#']) hm fun z hz => .of_qualifier (.idSelector (.mk hz))
  have hkind : IsKind .idSelector ('#' :: m) := isKind_of_ne_pseudo (by decide) (by decide) (.mk hm)
  have hleaves := leaves_of_name hn.many ht (longest_many_of_name (heq ▸ hlongest)) heq
  exact ⟨_, hkind, hleaves.after (a := ['#']) fun g hg => .mk (hn.of_prefix hg.1 hg.2)⟩

theorem tokenLeaves_of_attrib (hx : Attrib x) (ht : Follow t) {y : Text} (hy : Longest Accepted (x ++ t) y)
    (heq : x ++ t = y ++ r) : TokenLeaves y r := by
  have hattrib : Attrib y := by
    obtain ⟨d, u, rfl⟩ := List.exists_cons_of_ne_nil hy.holds.ne_nil
    obtain rfl : d = '[' := by
      obtain ⟨-, -, -, -, -⟩ := hx
      exact (List.cons.inj heq).1.symm
    simpa +decide using hy.holds.of_head
  obtain rfl := Rule.prefixFree_attrib.eq_of_prefix hx (List.prefix_append ..) hattrib hy.isPrefix
  obtain rfl := List.append_cancel_left heq
  exact tokenLeaves_of_follow hy.holds ht

/-- A token that begins with a colon calls a name with an argument, or is a name. -/
theorem Accepted.of_colon (h : Accepted (':' :: x)) :
    Called (':' :: x) ∨ ∃ c i, Derivation.Colons c ∧ Ident i ∧ ':' :: x = c ++ i := by
  have hkind : Derivation.Negation (':' :: x) ∨ Derivation.Pseudo (':' :: x) := by simpa +decide using h.of_head
  rcases hkind with h | h
  · exact .inl h.called
  · exact h.ident_or_called.symm

/-- The bracket of a call cannot belong to a name. -/
theorem not_prefix_of_called {c i : Text} (h : Called x) (hc : Derivation.Colons c) (hi : Ident i) :
    ¬ x <+: c ++ i := by
  intro h
  obtain ⟨z, hz⟩ := h
  obtain ⟨ha, ho, -, -⟩ := h.bracketed
  have hci := hc.escaping.append (hi.escaping.mono fun _ => .inr)
  rw [← hz, List.append_assoc] at hci
  rcases ha.allowed_of_append hci with h | h
  · exact ho.ne_backslash h
  · exact h.not_isMarker (.inr (.inr (.inl ho)))

theorem tokenLeaves_of_called (hx : Called x) (hacc : Accepted x) (ht : Follow t) {y : Text}
    (hy : Longest Accepted (x ++ t) y) (heq : x ++ t = y ++ r) : TokenLeaves y r := by
  obtain ⟨u, rfl⟩ := hx.head
  have hxy := hy.prefix_of hacc (List.prefix_append ..)
  obtain ⟨z, rfl⟩ := hxy
  rcases hy.holds.of_colon with h | ⟨c, i, hc, hi, hci⟩
  · obtain rfl := Rule.prefixFree_called _ _ hx h
    rw [List.append_nil] at heq
    obtain rfl := List.append_cancel_left heq
    exact tokenLeaves_of_follow hy.holds ht
  · exact absurd ⟨z, hci⟩ (not_prefix_of_called hx hc hi)

theorem tokenLeaves_of_pseudo_ident {c i : Text} (hc : Derivation.Colons c) (hi : Ident i) (ht : Follow t) {y : Text}
    (hy : Longest Accepted (c ++ i ++ t) y) (heq : c ++ i ++ t = y ++ r) : TokenLeaves y r := by
  obtain ⟨u, rfl⟩ : ∃ u, y = ':' :: u := by
    obtain ⟨v, rfl⟩ := hc.head
    obtain ⟨d, u, rfl⟩ := List.exists_cons_of_ne_nil hy.holds.ne_nil
    exact ⟨u, by rw [(List.cons.inj heq).1]⟩
  rcases hy.holds.of_colon with h | ⟨d, j, hd, hj, hdj⟩
  · -- the argument that a call would have cannot stand at a boundary
    generalize hw : ':' :: u = w at h heq
    obtain @⟨d, j, v, hd, hj, -⟩ := h
    simp only [List.append_assoc, List.cons_append] at heq
    obtain rfl := colons_eq hc hd hi hj heq
    have heq : i ++ t = j ++ '(' :: (v ++ ([')'] ++ r)) := List.append_cancel_left heq
    have hstop : ¬ ('(' = '\\' ∨ IsNameInner '(') := by decide
    have hlongest : Longest Ident (i ++ t) j := heq ▸ longest_ident_of_stop hj hstop
    exact absurd (leaves_of_ident hi ht hlongest heq).atBoundary.head (by decide)
  · rw [hdj, List.append_assoc] at hy
    rw [hdj, List.append_assoc, List.append_assoc] at heq
    obtain rfl := colons_eq hc hd hi hj heq
    have hlongest : Longest Ident (i ++ t) j := hy.after hj fun z hz => .of_qualifier (.pseudo (.ident hc hz))
    have hleaves := leaves_of_ident hi ht hlongest (List.append_cancel_left heq)
    rw [hdj]
    refine ⟨.pseudo, ⟨by decide, .ident hc hj, fun _ hn => ?_⟩, hleaves.after fun g hg => .ident hc hg⟩
    exact not_prefix_of_called hn.called hc hj List.prefix_rfl

theorem Accepted.of_element_head (h : Accepted (c :: x)) (hc : IsElementHead c) :
    TypeSelector (c :: x) ∨ Universal (c :: x) := by
  rcases h.of_head with ⟨-, h⟩ | ⟨rfl, -⟩ | ⟨rfl, -⟩ | ⟨rfl, -⟩ | ⟨rfl, -⟩ | ⟨h, -⟩
  · exact h
  · exact absurd hc (by decide)
  · exact absurd hc (by decide)
  · exact absurd hc (by decide)
  · exact absurd hc (by decide)
  · exact absurd h (not_isCombinatorChar_of_head (.inl hc))

/-- The longest name of an element where one stands. -/
theorem leaves_of_localName {y z : Text} (hy : LocalName y) (ht : Follow t) (hz : Longest LocalName (y ++ t) z)
    (heq : y ++ t = z ++ r) : Ident z ∧ Leaves Ident z r ∨ z = ['*'] ∧ Follow r := by
  rcases hy with hi | rfl
  · have hlongest : Longest Ident (y ++ t) z := by
      refine ⟨?_, hz.isPrefix, fun j hj => hz.greatest j (.inl hj)⟩
      rcases hz.holds with h | rfl
      · exact h
      · obtain ⟨d, u, rfl, hd⟩ := hi.head
        obtain rfl := (List.cons.inj heq).1
        exact absurd hd (by decide)
    exact .inl ⟨hlongest.holds, leaves_of_ident hi ht hlongest heq⟩
  · rcases hz.holds with h | rfl
    · obtain ⟨d, u, rfl, hd⟩ := h.head
      obtain rfl := (List.cons.inj heq).1
      exact absurd hd (by decide)
    · exact .inr ⟨rfl, List.append_cancel_left heq ▸ ht⟩

/-- The name of an element with its namespace. -/
theorem tokenLeaves_of_localName {m y z : Text} (hm : Maybe NamespaceQualifier m) (hy : LocalName y) (ht : Follow t)
    (hz : Longest LocalName (y ++ t) z) (heq : y ++ t = z ++ r) : TokenLeaves (m ++ z) r := by
  rcases leaves_of_localName hy ht hz heq with ⟨hi, hleaves⟩ | ⟨rfl, hr⟩
  · have hkind : IsKind .typeSelector (m ++ z) := isKind_of_ne_pseudo (by decide) (by decide) (.mk hm hi)
    exact ⟨_, hkind, hleaves.after fun g hg => .mk hm hg⟩
  · have hkind : IsKind .universal (m ++ ['*']) := isKind_of_ne_pseudo (by decide) (by decide) (.mk hm)
    exact ⟨_, hkind, .inl hr⟩

/-- A bar cannot belong to a name. -/
theorem not_prefix_of_namespace {n y z : Text} (hn : NamespaceQualifier n) (hy : LocalName y) : ¬ n ++ z <+: y := by
  intro h
  obtain ⟨w, rfl⟩ := h
  obtain ⟨a, ha, rfl⟩ := Rule.NamespaceQualifier.escaping hn
  have hesc : Escaping Rule.IsNamespaceChar (a ++ ['|'] ++ z ++ w) := by
    rcases hy with h | h
    · exact h.escaping.mono fun _ => .inr
    · rw [h]
      exact .plain (by decide) (.inl rfl) .nil
  simp only [List.append_assoc, List.singleton_append] at hesc
  exact Rule.not_isNamespaceChar_bar (ha.allowed_of_append hesc)

theorem accepted_of_element {n y : Text} (hn : Maybe NamespaceQualifier n) (hy : LocalName y) : Accepted (n ++ y) :=
  .of_element (element_iff.2 ⟨n, y, hn, hy, rfl⟩)

/-- The token takes an identifier as a namespace where the grammar goes on with an empty one. -/
theorem tokenLeaves_of_ident_bar {i j z : Text} (hi : Ident i) (ht : Follow t) (hj : Ident j) (hz : LocalName z)
    (hx : Longest Accepted (i ++ t) (j ++ ['|'] ++ z)) (heq : i ++ t = j ++ '|' :: (z ++ r)) :
    TokenLeaves (j ++ ['|'] ++ z) r := by
  have hstop : ¬ ('|' = '\\' ∨ IsNameInner '|') := by decide
  have hlongest : Longest Ident (i ++ t) j := heq ▸ longest_ident_of_stop hj hstop
  rcases (leaves_of_ident hi ht hlongest heq).atBoundary with h | h
  · exact absurd h.head (by decide)
  · obtain ⟨y, s, hy, hs, hys⟩ := localName_of_bar h
    have hx : Longest Accepted ((j ++ ['|']) ++ (y ++ s)) (j ++ ['|'] ++ z) := by
      rw [heq, hys] at hx
      simpa using hx
    have hz : Longest LocalName (y ++ s) z := hx.after hz fun w hw => accepted_of_element (.present (.ident hj)) hw
    exact tokenLeaves_of_localName (.present (.ident hj)) hy hs hz hys.symm

theorem tokenLeaves_of_localName_first {y m z : Text} (hy : LocalName y) (ht : Follow t) (hm : NamespaceQualifier m)
    (hz : LocalName z) (hx : Longest Accepted (y ++ t) (m ++ z)) (heq : y ++ t = m ++ (z ++ r)) :
    TokenLeaves (m ++ z) r := by
  rcases hm with _ | hj | _
  · obtain ⟨d, u, rfl, ⟨rfl, -⟩ | ⟨hd, -⟩⟩ := hy.head
    · exact absurd (List.cons.inj heq).1 (by decide)
    · obtain rfl := (List.cons.inj heq).1
      exact absurd hd (by decide)
  · rcases hy with hi | rfl
    · -- the one case in which the two sides differ: the blank of an escape is also a combinator
      exact tokenLeaves_of_ident_bar hi ht hj hz hx (by simpa using heq)
    · obtain ⟨d, u, rfl, hd⟩ := hj.head
      obtain rfl := (List.cons.inj heq).1
      exact absurd hd (by decide)
  · rcases hy with hi | rfl
    · obtain ⟨d, u, rfl, hd⟩ := hi.head
      obtain rfl := (List.cons.inj heq).1
      exact absurd hd (by decide)
    · obtain rfl : t = '|' :: (z ++ r) := (List.cons.inj heq).2
      exact absurd ht.head (by decide)

theorem tokenLeaves_of_element {n y : Text} (hn : Maybe NamespaceQualifier n) (hy : LocalName y) (ht : Follow t)
    (hx : Longest Accepted (n ++ y ++ t) x) (heq : n ++ y ++ t = x ++ r) : TokenLeaves x r := by
  obtain ⟨m, z, hm, hz, rfl⟩ : ∃ m z, Maybe NamespaceQualifier m ∧ LocalName z ∧ x = m ++ z := by
    obtain ⟨c, u, hcu, hc⟩ := head_of_element (element_iff.2 ⟨n, y, hn, hy, rfl⟩)
    obtain ⟨d, v, rfl⟩ := List.exists_cons_of_ne_nil hx.holds.ne_nil
    rw [hcu] at heq
    obtain rfl := (List.cons.inj heq).1
    exact element_iff.1 (hx.holds.of_element_head hc)
  rw [List.append_assoc] at hx
  rw [List.append_assoc, List.append_assoc] at heq
  rcases hn with _ | hn
  · rcases hm with _ | hm
    · have hz : Longest LocalName (y ++ t) z := hx.after (a := []) hz fun w hw => accepted_of_element .absent hw
      exact tokenLeaves_of_localName .absent hy ht hz heq
    · exact tokenLeaves_of_localName_first hy ht hm hz hx heq
  · rcases hm with _ | hm
    · -- the token would end before the bar, but it is longer with the namespace
      have hprefix : n ++ y <+: z := hx.prefix_of (accepted_of_element (.present hn) hy) ⟨t, by simp⟩
      exact absurd hprefix (not_prefix_of_namespace hn hz)
    · have hmt : m <+: n ++ (y ++ t) := (List.prefix_append ..).trans hx.isPrefix
      obtain rfl := Rule.prefixFree_namespaceQualifier.eq_of_prefix hn (List.prefix_append ..) hm hmt
      have hz : Longest LocalName (y ++ t) z := hx.after hz fun w hw => accepted_of_element (.present hn) hw
      exact tokenLeaves_of_localName (.present hn) hy ht hz (List.append_cancel_left heq)

/-! ### The first token of a selector -/

theorem tokenLeaves_of_qualifier {g : Text} (hg : Qualifier g) (ht : Follow t) (hx : Longest Accepted (g ++ t) x)
    (heq : g ++ t = x ++ r) : TokenLeaves x r := by
  have hacc := Accepted.of_qualifier hg
  rcases hg with hg | hg | hg | hg | hg
  · exact tokenLeaves_of_id hg ht hx heq
  · exact tokenLeaves_of_class hg ht hx heq
  · exact tokenLeaves_of_attrib hg ht hx heq
  · rcases hg.ident_or_called with ⟨c, i, hc, hi, rfl⟩ | hcalled
    · exact tokenLeaves_of_pseudo_ident hc hi ht hx heq
    · exact tokenLeaves_of_called hcalled hacc ht hx heq
  · exact tokenLeaves_of_called hg.called hacc ht hx heq

/-- The longest token at the beginning of a selector, which is no combinator. -/
theorem tokenLeaves_of_selector (h : Selector t) (hx : Longest Accepted t x) (heq : t = x ++ r) :
    TokenLeaves x r ∧ ¬ Combinator x := by
  constructor
  · obtain ⟨g, s, hg | hg, hs, rfl⟩ := selector_iff.1 h
    · obtain ⟨n, y, hn, hy, rfl⟩ := element_iff.1 hg
      exact tokenLeaves_of_element hn hy hs hx heq
    · exact tokenLeaves_of_qualifier hg hs hx heq
  · intro hk
    obtain ⟨c, u, rfl, hc⟩ := h.head
    obtain ⟨d, v, rfl⟩ := List.exists_cons_of_ne_nil hk.ne_nil
    obtain rfl := (List.cons.inj heq).1
    exact not_isCombinatorChar_of_head hc (hk.forall_mem c (by simp))

theorem Accepted.of_combinator_head (h : Accepted (c :: x)) (hc : IsCombinatorChar c) : Combinator (c :: x) := by
  rcases h.of_head with ⟨h, -⟩ | ⟨rfl, -⟩ | ⟨rfl, -⟩ | ⟨rfl, -⟩ | ⟨rfl, -⟩ | ⟨-, h⟩
  · exact absurd hc (not_isCombinatorChar_of_head (.inl h))
  · exact absurd hc (by decide)
  · exact absurd hc (by decide)
  · exact absurd hc (by decide)
  · exact absurd hc (by decide)
  · exact h

/-- A combinator that the grammar has before a selector is the token there. -/
theorem eq_of_combinator {k s : Text} (hk : Combinator k) (hs : Selector s) (hx : Longest Accepted (k ++ s) x) :
    x = k := by
  obtain ⟨z, rfl⟩ := hx.prefix_of (Accepted.of_combinator hk) (List.prefix_append ..)
  cases z with
  | nil => rw [List.append_nil]
  | cons c z =>
    have hx' : Combinator (k ++ c :: z) := by
      obtain ⟨d, k, rfl⟩ := List.exists_cons_of_ne_nil hk.ne_nil
      exact hx.holds.of_combinator_head (hk.forall_mem d (by simp))
    -- it would go on with the first character of the selector
    obtain ⟨d, u, rfl, hd⟩ := hs.head
    have hprefix : c :: z <+: d :: u := (List.prefix_append_right_inj _).1 hx.isPrefix
    obtain rfl := (List.cons_prefix_cons.1 hprefix).1
    have hc : IsCombinatorChar c := hx'.forall_mem c (by simp)
    exact absurd hc (not_isCombinatorChar_of_head hd)

/-- Where a simple selector may end, the longest token is again a simple selector or the combinator that is there. -/
theorem cases_of_follow (h : Follow t) (hx : Longest Accepted t x) (heq : t = x ++ r) :
    ¬ Combinator x ∧ TokenLeaves x r ∨ Combinator x ∧ Selector r := by
  rcases follow_cases h with rfl | ⟨g, s, hg, hs, rfl⟩ | ⟨k, s, hk, hs, rfl⟩
  · exact absurd (List.append_eq_nil_iff.1 heq.symm).1 hx.holds.ne_nil
  · exact .inl (tokenLeaves_of_selector (selector_iff.2 ⟨g, s, .inr hg, hs, rfl⟩) hx heq).symm
  · obtain rfl := eq_of_combinator hk hs hx
    exact .inr ⟨hk, List.append_cancel_left heq ▸ hs⟩

theorem exists_accepted_of_selector (h : Selector t) : ∃ x, Accepted x ∧ x <+: t := by
  obtain ⟨g, s, hg, -, rfl⟩ := selector_iff.1 h
  have hacc : Accepted g := by
    rcases hg with hg | hg
    · exact .of_element hg
    · exact .of_qualifier hg
  exact ⟨g, hacc, List.prefix_append ..⟩

theorem exists_accepted_of_atBoundary (h : AtBoundary t) : t = [] ∨ ∃ x, Accepted x ∧ x <+: t := by
  rcases h with h | h
  · rcases follow_cases h with rfl | ⟨g, s, hg, hs, rfl⟩ | ⟨k, s, hk, hs, rfl⟩
    · exact .inl rfl
    · exact .inr (exists_accepted_of_selector (selector_iff.2 ⟨g, s, .inr hg, hs, rfl⟩))
    · exact .inr ⟨k, Accepted.of_combinator hk, List.prefix_append ..⟩
  · exact .inr (exists_accepted_of_selector h)

/-! ### All tokens of a selector -/

/-- Tokens as they may come after a simple selector. -/
inductive InOrder : List Token → Prop
  | nil : InOrder []
  | simple {t : Token} {ts : List Token} : t.isCombinator = false → InOrder ts → InOrder (t :: ts)
  | combinator {c t : Token} {ts : List Token} : c.isCombinator = true → t.isCombinator = false → InOrder ts →
      InOrder (c :: t :: ts)

/-- A token is a combinator, a type or universal selector, or another simple selector. -/
theorem derives_cases (hp : p ∈ productions) (hx : p.Derives x) :
    p = .combinator ∧ Combinator x ∨ (p = .typeSelector ∨ p = .universal) ∧ (TypeSelector x ∨ Universal x) ∨
      p ≠ .typeSelector ∧ p ≠ .universal ∧ Qualifier x := by
  simp only [productions, List.mem_cons, List.not_mem_nil, or_false] at hp
  rcases hp with rfl | rfl | rfl | rfl | rfl | rfl | rfl | rfl
  · exact .inr (.inl ⟨.inl rfl, .inl hx⟩)
  · exact .inr (.inl ⟨.inr rfl, .inr hx⟩)
  · exact .inr (.inr ⟨by decide, by decide, .idSelector hx⟩)
  · exact .inr (.inr ⟨by decide, by decide, .classSelector hx⟩)
  · exact .inr (.inr ⟨by decide, by decide, .attrib hx⟩)
  · exact .inr (.inr ⟨by decide, by decide, .negation hx⟩)
  · exact .inr (.inr ⟨by decide, by decide, .pseudo hx⟩)
  · exact .inl ⟨rfl, hx⟩

theorem head_of_derives (hp : p ∈ productions) (hx : p.Derives x) :
    p = .combinator ∨ ∃ c u, x = c :: u ∧ (IsElementHead c ∨ IsQualifierHead c) := by
  rcases derives_cases hp hx with ⟨hp, -⟩ | ⟨-, hx⟩ | ⟨-, -, hx⟩
  · exact .inl hp
  · obtain ⟨c, u, rfl, hc⟩ := head_of_element hx
    exact .inr ⟨c, u, rfl, .inl hc⟩
  · obtain ⟨c, u, rfl, hc⟩ := hx.head
    exact .inr ⟨c, u, rfl, .inr hc⟩

theorem IsFirst.isCombinator_iff (h : IsFirst t p x) (offset : Nat) :
    (⟨p, offset, x⟩ : Token).isCombinator = true ↔ Combinator x := by
  have hacc : p.accepts x = true := by simpa using List.find?_some h.earliest
  rw [Production.accepts_iff_matches, Production.matches_pattern] at hacc
  simp only [isCombinator, beq_iff_eq]
  constructor
  · rintro rfl
    exact hacc
  · intro hk
    rcases head_of_derives (List.mem_of_find?_eq_some h.earliest) hacc with hp | ⟨c, u, rfl, hc⟩
    · exact hp
    · exact absurd (hk.forall_mem c (by simp)) (not_isCombinatorChar_of_head hc)

/-- Every selector is cut into tokens to its end, in the order of the grammar. -/
theorem Cut.inOrder {left : Text} {ps : List (Production × Text)} (h : Cut t ps left) :
    (AtBoundary t → left = [] ∧ ∀ offset, InOrder (place offset ps)) ∧
      (Selector t → left = [] ∧ ∀ offset, ∃ first rest,
        place offset ps = first :: rest ∧ first.isCombinator = false ∧ InOrder rest) := by
  induction h with
  | @stop t hstop =>
    -- a selector begins with a token, so only the end of the text is left
    have hselector : ¬ Selector t := by
      intro h
      obtain ⟨x, hx, hxt⟩ := exists_accepted_of_selector h
      exact hstop x hx hxt
    refine ⟨fun h => ?_, fun h => absurd h hselector⟩
    rcases exists_accepted_of_atBoundary h with rfl | ⟨x, hx, hxt⟩
    · exact ⟨rfl, fun _ => .nil⟩
    · exact absurd hxt (hstop x hx)
  | @step p x t left ps hx _ ih =>
    have hsimple (hr : AtBoundary t) (hk : ¬ Combinator x) : left = [] ∧ ∀ offset,
        (⟨p, offset, x⟩ : Token).isCombinator = false ∧ InOrder (place (offset + Text.byteLength x) ps) := by
      obtain ⟨hleft, hrest⟩ := ih.1 hr
      refine ⟨hleft, fun offset => ⟨?_, hrest _⟩⟩
      rw [Bool.eq_false_iff]
      exact fun h => hk ((hx.isCombinator_iff offset).1 h)
    have hselector (h : Selector (x ++ t)) := tokenLeaves_of_selector h hx.longest rfl
    constructor
    · intro h
      rcases h with h | h
      · rcases cases_of_follow h hx.longest rfl with ⟨hk, hr⟩ | ⟨hk, hr⟩
        · obtain ⟨hleft, hrest⟩ := hsimple hr.atBoundary hk
          exact ⟨hleft, fun offset => .simple (hrest offset).1 (hrest offset).2⟩
        · -- after a combinator comes a selector, whose first token is none
          obtain ⟨hleft, hrest⟩ := ih.2 hr
          refine ⟨hleft, fun offset => ?_⟩
          obtain ⟨first, rest, heq, hfirst, hrest⟩ := hrest (offset + Text.byteLength x)
          rw [place, heq]
          exact .combinator ((hx.isCombinator_iff offset).2 hk) hfirst hrest
      · obtain ⟨hleft, hrest⟩ := hsimple (hselector h).1.atBoundary (hselector h).2
        exact ⟨hleft, fun offset => .simple (hrest offset).1 (hrest offset).2⟩
    · intro h
      obtain ⟨hleft, hrest⟩ := hsimple (hselector h).1.atBoundary (hselector h).2
      exact ⟨hleft, fun offset => ⟨_, _, rfl, hrest offset⟩⟩

theorem exists_ofText (h : Selector t) : ∃ tokens, ofText t = .ok tokens := by
  obtain ⟨ps, left, hcut⟩ := exists_cut t
  obtain ⟨rfl, -⟩ := hcut.inOrder.2 h
  exact ⟨_, ofText_eq_ok_iff.2 ⟨ps, hcut, rfl⟩⟩

end SelectorSyntax.Token
