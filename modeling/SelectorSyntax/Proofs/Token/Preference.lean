import SelectorSyntax.Proofs.Grammar.Shape
import SelectorSyntax.Token

/-!
# Preference in the token productions

Of each production that tokens are instances of, the match that the search prefers is the longest one
(`Production.longestFirst`).  Attributes, negations and combinators with a symbol end where they must; names are
covered by their own lemmas; and a type or a universal selector is longer with its namespace than without, because a
bar never stands for itself in a name.
-/

namespace SelectorSyntax

open Pattern SelectorSyntax.Derivation Lexeme

namespace Rule

/-! ### Combinators -/

/-- The blanks before a symbol are all that stand there. -/
theorem takeWhile_blanks {a x : Text} {c : Char} (ha : Blanks a) (hc : ¬ Text.isBlank c) :
    (a ++ c :: x).takeWhile Text.isBlank = a := by
  rw [List.takeWhile_append_of_pos ha, List.takeWhile_cons_of_neg hc, List.append_nil]

theorem not_isBlank_of_symbol {c : Char} (hc : c = '+' ∨ c = '>' ∨ c = '~') : ¬ Text.isBlank c := by
  rcases hc with rfl | rfl | rfl <;> decide

theorem prefixFree_combinatorSymbol : PrefixFree (choice [plusSign, greater, tilde]).Matches := by
  rw [matches_combinatorSymbol]
  rintro _ y ⟨a, c, ha, hc, rfl⟩ ⟨b, d, hb, hd, heq⟩
  rw [List.append_assoc] at heq
  have hab : a = b := by
    rw [← takeWhile_blanks ha (not_isBlank_of_symbol hc), ← takeWhile_blanks hb (not_isBlank_of_symbol hd)]
    exact congrArg _ heq
  subst hab
  exact (List.cons.inj (List.append_cancel_left heq)).2

theorem longestFirst_rounds_blank (least : Nat) : (Pattern.rounds true least none blank).LongestFirst := by
  apply longestFirst_rounds_of_prefixFree
  · exact prefixFree_one _
  · intro h
    obtain ⟨_, _, h⟩ := h
    cases h

theorem longestFirst_combinator : combinator.LongestFirst := by
  have hsymbol : (Pattern.seq (choice [plusSign, greater, tilde]) optionalBlanks).LongestFirst :=
    (longestFirst_of_prefixFree prefixFree_combinatorSymbol).seq (longestFirst_rounds_blank 0)
      (prefixFree_combinatorSymbol.catchesUp _)
  have hblanks : blanks.LongestFirst := longestFirst_rounds_blank 1
  apply hsymbol.alt hblanks
  intro t x y hx hy ht
  rw [matches_seq, matches_combinatorSymbol] at hx
  rw [matches_blanks] at hy
  obtain ⟨_, b, ⟨a, c, ha, hc, rfl⟩, hb, rfl⟩ := hx.holds
  by_contra hlt
  -- otherwise the symbol would be among the blanks
  have hxy := List.prefix_of_prefix_length_le hx.isPrefix ht (by omega)
  have hmem : c ∈ y := hxy.subset (by simp)
  exact not_isBlank_of_symbol hc (hy.1 c hmem)

/-! ### Names -/

theorem longestFirst_idSelector : idSelector.LongestFirst :=
  (longestFirst_char '#').seq longestFirst_name ((prefixFree_one _).catchesUp _)

theorem longestFirst_classSelector : classSelector.LongestFirst :=
  (longestFirst_char '.').seq longestFirst_ident ((prefixFree_one _).catchesUp _)

/-- What may stand before the bar of a namespace. -/
def IsNamespaceChar (c : Char) : Prop :=
  c = '*' ∨ IsNameInner c

theorem NamespaceQualifier.escaping {n : Text} (h : NamespaceQualifier n) :
    ∃ a, Escaping IsNamespaceChar a ∧ n = a ++ ['|'] := by
  rcases h with _ | h | _
  · exact ⟨[], .nil, rfl⟩
  · exact ⟨_, h.escaping.mono fun _ => .inr, rfl⟩
  · exact ⟨['*'], .plain (by decide) (.inl rfl) .nil, rfl⟩

theorem not_isNamespaceChar_bar : ¬ (('|' : Char) = '\\' ∨ IsNamespaceChar '|') := by
  intro h
  rcases h with h | h | h
  · cases h
  · cases h
  · exact absurd h (by decide)

theorem prefixFree_namespaceQualifier : PrefixFree NamespaceQualifier := by
  intro x y hx hxy
  obtain ⟨a, ha, rfl⟩ := NamespaceQualifier.escaping hx
  obtain ⟨b, hb, heq⟩ := NamespaceQualifier.escaping hxy
  rw [List.append_assoc] at heq
  obtain rfl := ha.eq_of_cut hb not_isNamespaceChar_bar not_isNamespaceChar_bar heq
  exact (List.cons.inj (List.append_cancel_left heq)).2

theorem longestFirst_typeSelector : typeSelector.LongestFirst := by
  have hns : PrefixFree namespaceQualifier.Matches := matches_namespaceQualifier ▸ prefixFree_namespaceQualifier
  refine LongestFirst.seq_optional ((longestFirst_of_prefixFree hns).seq longestFirst_ident (hns.catchesUp _))
    longestFirst_ident fun t x y hx hy ht => ?_
  rw [matches_seq, matches_namespaceQualifier, matches_ident] at hx
  rw [matches_ident] at hy
  obtain ⟨n, i, hn, hi, rfl⟩ := hx.holds
  obtain ⟨a, ha, rfl⟩ := NamespaceQualifier.escaping hn
  by_contra hlt
  -- otherwise the bar would be part of a name
  obtain ⟨z, rfl⟩ := List.prefix_of_prefix_length_le hx.isPrefix ht (by omega)
  simp only [List.append_assoc, List.singleton_append] at hy
  exact not_isNamespaceChar_bar (ha.allowed_of_append (hy.escaping.mono fun _ => .inr))

theorem longestFirst_universal : universal.LongestFirst := by
  have hns : PrefixFree namespaceQualifier.Matches := matches_namespaceQualifier ▸ prefixFree_namespaceQualifier
  refine LongestFirst.seq_optional ((longestFirst_of_prefixFree hns).seq (longestFirst_char '*') (hns.catchesUp _))
    (longestFirst_char '*') fun t x y hx hy ht => ?_
  rw [matches_seq, matches_char] at hx
  rw [matches_char] at hy
  obtain ⟨n, _, -, rfl, rfl⟩ := hx.holds
  rw [hy]
  simp

/-! ### Brackets -/

theorem prefixFree_bracketed_call : PrefixFree (Bracketed IsCallChar) :=
  prefixFree_bracketed fun _ h ho => h.not_isMarker (.inr (.inr (.inl ho)))

theorem prefixFree_called : PrefixFree Called :=
  prefixFree_bracketed_call.mono fun _ => Called.bracketed

theorem prefixFree_attrib : PrefixFree Attrib :=
  prefixFree_bracketed_call.mono fun _ h => h.bracketed _

theorem longestFirst_attrib : attrib.LongestFirst := by
  apply longestFirst_of_prefixFree
  rw [matches_attrib]
  exact prefixFree_attrib

theorem longestFirst_negation : negation.LongestFirst := by
  apply longestFirst_of_prefixFree
  rw [matches_negation]
  exact prefixFree_called.mono fun _ => Derivation.Negation.called

theorem bracketed_of_arguments {t : Text} (h : (Pattern.seq (char '(') argument).Matches t) :
    Bracketed IsCallChar t := by
  rw [matches_seq, matches_char, matches_argument] at h
  obtain ⟨_, _, rfl, ⟨a, e, ha, he, rfl⟩, rfl⟩ := h
  exact .mk .nil (.inl rfl) ((balanced_of_blanks ha).append he.balanced) (.inl rfl)

theorem opens_of_arguments {c : Char} {t : Text} (h : (Pattern.seq (char '(') argument).Matches (c :: t)) :
    c = '(' := by
  rw [matches_seq, matches_char] at h
  obtain ⟨_, _, rfl, -, heq⟩ := h
  exact (List.cons.inj heq).1

theorem eq_of_colons_append {x z : Text} (hx : Derivation.Colons x) (hxz : Derivation.Colons (x ++ z)) :
    z = [] ∨ z = [':'] := by
  generalize hw : x ++ z = w at hxz
  rcases hx with _ | _ <;> rcases hxz with _ | _ <;> simp_all

theorem longestFirst_colons : colons.LongestFirst :=
  (longestFirst_char ':').seq (longestFirst_char ':').optional ((prefixFree_one _).catchesUp _)

theorem longestFirst_pseudo : pseudo.LongestFirst := by
  have hargs := longestFirst_of_prefixFree (prefixFree_bracketed_call.mono fun _ => bracketed_of_arguments)
  refine longestFirst_colons.seq (longestFirst_ident.seq hargs.optional ?_) ?_
  · rw [matches_ident, concat, matches_optional]
    refine catchesUp_of_nil .absent fun {z r x y} hz hx hy heq => ?_
    obtain ⟨u, rfl⟩ := hz.prefix_of hx ⟨y, heq⟩
    rw [List.append_assoc] at heq
    obtain rfl := List.append_cancel_left heq
    cases u with
    | nil => exact hy
    | cons c u =>
      -- otherwise the bracket would be part of a name
      obtain rfl := opens_of_arguments hy.of_cons
      exact absurd (hx.escaping.allowed_of_append hz.holds.escaping) (by decide)
  · rw [matches_colons, matches_concat_cons, matches_ident]
    intro t x x₀ _ h₀ hx h ht
    obtain ⟨i, u, hi, hu, rfl⟩ := h
    obtain ⟨c, v, rfl, hc⟩ := hi.head
    obtain ⟨z, rfl⟩ := h₀.prefix_of hx ((List.prefix_append ..).trans ht)
    rcases eq_of_colons_append hx h₀.holds with rfl | rfl
    · exact ⟨_, ⟨_, u, hi, hu, rfl⟩, by simpa using ht, by simp⟩
    · -- otherwise the second colon would begin the name
      have hxt := List.prefix_of_prefix_length_le h₀.isPrefix ht (by simp)
      obtain rfl : ':' = c := by simpa using hxt
      exact absurd hc (by decide)

end Rule

/-- The search finds the longest match of each production that tokens are instances of. -/
theorem Production.longestFirst {p : Production} (hp : p ∈ Token.productions) : p.pattern.LongestFirst := by
  simp only [Token.productions, List.mem_cons, List.not_mem_nil, or_false] at hp
  rcases hp with rfl | rfl | rfl | rfl | rfl | rfl | rfl | rfl
  · exact Rule.longestFirst_typeSelector
  · exact Rule.longestFirst_universal
  · exact Rule.longestFirst_idSelector
  · exact Rule.longestFirst_classSelector
  · exact Rule.longestFirst_attrib
  · exact Rule.longestFirst_negation
  · exact Rule.longestFirst_pseudo
  · exact Rule.longestFirst_combinator

end SelectorSyntax
