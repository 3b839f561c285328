import SelectorSyntax.Negation
import SelectorSyntax.Proofs.Text.Cutting
import SelectorSyntax.Proofs.Token.Kind

/-!
# The argument of a negation

The selector inside a negation is cut out of the text: from the first parenthesis to the last character, without the
blanks at the ends.  No spelling of `:not(` has another parenthesis in it (`NotOpening.eq_append`), so the cut falls
where the grammar has the argument (`Negation.innerText?_eq`).

Blanks after the argument may be its own.  The one that ends a hexadecimal escape is not missed, but an escaped blank
is: what is left of the argument ends with a backslash that escapes nothing, and is no selector.
-/

namespace SelectorSyntax

namespace Derivation

variable {t : Text} {c : Char}

/-! ### The opening of a negation -/

theorem Letter.not_mem {cases : List Char} {codes : List Text} {afterBackslash : Prop} (hcases : c ∉ cases)
    (hcodes : ∀ w ∈ codes, c ∉ w) (hbackslash : c ≠ '\\') (hzero : c ≠ '0') (hblank : ¬ Text.isBlank c)
    (h : Letter cases codes afterBackslash t) : c ∉ t := by
  rcases h with hd | ⟨hz, -, hw, he⟩ | ⟨-, hd⟩
  · rw [List.mem_singleton]
    rintro rfl
    exact hcases hd
  · intro hmem
    simp only [List.mem_cons, List.mem_append, hbackslash, false_or] at hmem
    rcases hmem with (hmem | hmem) | hmem
    · exact hzero (hz c hmem)
    · exact hcodes _ hw hmem
    · exact hblank (he.blanks c hmem)
  · rw [List.mem_pair, not_or]
    refine ⟨hbackslash, ?_⟩
    rintro rfl
    exact hcases hd

/-- The parenthesis of `:not(` is the first one, however the letters are spelled. -/
theorem NotOpening.eq_append (h : NotOpening t) : ∃ u, '(' ∉ u ∧ t = u ++ ['('] := by
  obtain @⟨n, o, t, hn, ho, ht⟩ := h
  have hn : '(' ∉ n := Letter.not_mem (by decide) (by decide) (by decide) (by decide) (by decide) hn
  have ho : '(' ∉ o := Letter.not_mem (by decide) (by decide) (by decide) (by decide) (by decide) ho
  have ht : '(' ∉ t := Letter.not_mem (by decide) (by decide) (by decide) (by decide) (by decide) ht
  refine ⟨':' :: (n ++ o ++ t), ?_, rfl⟩
  simp [hn, ho, ht]

/-! ### Arguments -/

theorem NegationArg.selector (h : NegationArg t) : Selector t := by
  refine selector_iff.2 ⟨t, [], ?_, ⟨[], [], .nil, .nil, rfl⟩, by simp⟩
  rcases h with h | h | h | h | h | h
  · exact .inl (.inl h)
  · exact .inl (.inr h)
  · exact .inr (.idSelector h)
  · exact .inr (.classSelector h)
  · exact .inr (.attrib h)
  · exact .inr (.pseudo h)

theorem NegationArg.sheds : Sheds NegationArg := by
  intro s c hc h
  rcases h with h | h | h | h | h | h
  · exact (TypeSelector.sheds s c hc h).imp_left .typeSelector
  · exact (Universal.sheds s c hc h).imp_left .universal
  · exact (IdSelector.sheds s c hc h).imp_left .idSelector
  · exact (ClassSelector.sheds s c hc h).imp_left .classSelector
  · exact (Attrib.sheds s c hc h).imp_left .attrib
  · exact (Pseudo.sheds s c hc h).imp_left .pseudo

theorem NegationArg.accepted (h : NegationArg t) : Token.Accepted t := by
  rw [Token.accepted_iff]
  rcases h with h | h | h | h | h | h <;> simp [h]

end Derivation

theorem Pseudo.argumentOf?_append {u v : Text} (hu : '(' ∉ u) : argumentOf? (u ++ '(' :: (v ++ [')'])) = some v := by
  rw [argumentOf?, Text.cutAt?_append hu, Option.bind_some, Text.dropEnd?_eq_some_iff]

namespace Negation

open SelectorSyntax.Derivation

variable {t h a x b inner : Text}

theorem argumentOf?_of_opening {m : Text} (hh : NotOpening h) : Pseudo.argumentOf? (h ++ m ++ [')']) = some m := by
  obtain ⟨u, hu, rfl⟩ := hh.eq_append
  rw [List.append_assoc, List.append_assoc, List.singleton_append]
  exact Pseudo.argumentOf?_append hu

/-- The cut falls where the grammar has the argument. -/
theorem innerText?_eq (hh : NotOpening h) (ha : Blanks a) (hx : NegationArg x) (hb : Blanks b) :
    innerText? (h ++ a ++ x ++ b ++ [')']) = some (Text.trimEnd x) := by
  have hsplit : h ++ a ++ x ++ b ++ [')'] = h ++ (a ++ x ++ b) ++ [')'] := by simp
  rw [innerText?, hsplit, argumentOf?_of_opening hh, Option.map_some, hx.selector.trim ha hb]

theorem exists_innerText? (h : Derivation.Negation t) : ∃ inner, innerText? t = some inner := by
  obtain ⟨hh, ha, hx, hb⟩ := h
  exact ⟨_, innerText?_eq hh ha hx hb⟩

theorem classification_of_derives (h : Derivation.Negation t) :
    Classification.ofText t = .ok ⟨.negation, none⟩ := by
  have hkind : Token.IsKind .negation t := Token.isKind_of_ne_pseudo (by decide) (by decide) h
  exact Token.classification_of_categoryAs hkind rfl

section

variable {c : Classification} (hc : Classification.ofText t = .ok c) (hnegation : c.category = .negation)

include hc hnegation

theorem derives_of_classification : Derivation.Negation t := by
  have hkind := (Token.isKind_of_classification hc).1
  rw [hnegation] at hkind
  exact hkind.derives

theorem ofText_of_error (hinner : innerText? t = some inner) {e : SelectorError}
    (he : Classification.ofText inner = .error e) : ofText t = .error e := by
  simp only [ofText, Token.isEmpty_of_classification hc, hc, hnegation, hinner, he, Bool.false_eq_true, if_false,
    if_true]

theorem ofText_of_found (hinner : innerText? t = some inner) {found : Classification}
    (hfound : Classification.ofText inner = .ok found) :
    ofText t = if allows found.category then .ok (some ⟨inner, found.category⟩)
      else .error (.forbiddenNesting inner found.category) := by
  simp only [ofText, Token.isEmpty_of_classification hc, hc, hnegation, hinner, hfound, Bool.false_eq_true, if_false,
    if_true]

end

/-- The selector inside a negation is given back, or it is refused for its category, unless it ended with an escaped
blank.  Then the trimmed text ends with a backslash that escapes nothing, and it is not classified at all. -/
theorem given_or_refused_iff {c : Classification} (hc : Classification.ofText t = .ok c)
    (hnegation : c.category = .negation) :
    ∃ inner, innerText? t = some inner ∧
      (∃ x, Production.negationArg.accepts x = true ∧ inner = Text.trimEnd x) ∧
      ((∃ n, ofText t = .ok (some n)) ∨ (∃ category, ofText t = .error (.forbiddenNesting inner category)) ↔
        ¬ EndsOpen inner) ∧
      (ofText t = .error (.noMatch inner) ↔ EndsOpen inner) := by
  obtain @⟨h, a, x, b, hh, ha, hx, hb⟩ := derives_of_classification hc hnegation
  have hinner := innerText?_eq hh ha hx hb
  have hacc : Production.negationArg.accepts x = true := by
    rw [Production.accepts_iff_matches, Production.matches_pattern]
    exact hx
  refine ⟨Text.trimEnd x, hinner, ⟨x, hacc, rfl⟩, ?_⟩
  rcases NegationArg.sheds.trimEnd hx with harg | hlone
  · -- what is left is an argument again
    have hopen := not_endsOpen_of_escaping harg.balanced.escaping
    obtain ⟨p, hp⟩ := Token.exists_isKind harg.accepted
    obtain ⟨found, hfound, -⟩ := Token.classification_of_isKind hp
    rw [ofText_of_found hc hnegation hinner hfound]
    by_cases hallows : allows found.category
    · simp [hallows, hopen]
    · simp [hallows, hopen]
  · -- what is left ends with a backslash that escapes nothing
    have hopen := hlone.endsOpen
    have hnot : ¬ Token.Accepted (Text.trimEnd x) := by
      intro h
      exact not_endsOpen_of_escaping h.balanced.escaping hopen
    rw [ofText_of_error hc hnegation hinner (Token.classification_of_not_accepted hnot)]
    simp [hopen]

/-- Letters of the opening are escaped, and the blank after the argument ends the escape in it. -/
theorem given_or_refused_of_escapes :
    let t := ":\\6e o\\T(\t#\\31 )".toList
    Classification.ofText t = .ok ⟨.negation, none⟩ ∧
    ∃ inner, innerText? t = some inner ∧
      (∃ x, Production.negationArg.accepts x = true ∧ inner = Text.trimEnd x) ∧
      ((∃ n, ofText t = .ok (some n)) ∨ (∃ category, ofText t = .error (.forbiddenNesting inner category)) ↔
        ¬ EndsOpen inner) ∧
      (ofText t = .error (.noMatch inner) ↔ EndsOpen inner) := by
  intro t
  have hc : Classification.ofText t = .ok ⟨.negation, none⟩ := by decide +kernel
  exact ⟨hc, given_or_refused_iff hc rfl⟩

/-- An escaped blank at the end of the argument, which is a type selector, and what is left of it. -/
theorem noMatch_of_escaped_blank : Classification.ofText ":not(a\\ )".toList = .ok ⟨.negation, none⟩ ∧
    Classification.ofText "a\\ ".toList = .ok ⟨.typeSelector, none⟩ ∧
    ofText ":not(a\\ )".toList = .error (.noMatch "a\\".toList) := by
  decide +kernel

end Negation

end SelectorSyntax
