import SelectorSyntax.Proofs.Grammar.Boundary

/-!
# Blanks at the end

A selector may end with a blank that belongs to it: the one that ends a hexadecimal escape, which is not missed if it
is taken away, or an escaped one, which leaves its backslash with nothing after it (`EndsOpen`).  There is no third
case (`Sheds`, `Derivation.Selector.sheds`), so a selector without the blanks at its end is a selector or ends open
(`Sheds.trimEnd`), and never both (`not_endsOpen_of_escaping`).
-/

namespace SelectorSyntax

/-- The last backslash of the text escapes nothing: the text ends with an odd number of backslashes. -/
def EndsOpen (t : Text) : Prop :=
  (t.reverse.takeWhile (· == '\\')).length % 2 = 1

instance : DecidablePred EndsOpen := fun _ => inferInstanceAs (Decidable (_ = _))

variable {S : Char → Prop} {t u : Text} {c : Char}

theorem not_endsOpen_of_escaping (h : Escaping S t) : ¬ EndsOpen t := by
  induction h with
  | nil => decide
  | @plain c t hne _ _ ih =>
    unfold EndsOpen at ih ⊢
    rw [List.reverse_cons, List.takeWhile_append]
    split
    · rename_i h
      rw [List.takeWhile_cons_of_neg (by simpa using hne), List.append_nil, ← h]
      exact ih
    · exact ih
  | @pair c t _ ih =>
    unfold EndsOpen at ih ⊢
    rw [List.reverse_cons, List.reverse_cons, List.append_assoc, List.takeWhile_append]
    split
    · -- the text after the pair has backslashes only
      rename_i h
      rw [List.length_append, ← h]
      by_cases hc : c = '\\'
      · subst hc
        change ¬ (_ + 2) % 2 = 1
        omega
      · rw [List.singleton_append, List.takeWhile_cons_of_neg (by simpa using hc)]
        exact ih
    · exact ih

/-- A backslash after a text in which every backslash has its character. -/
def LoneBackslash (t : Text) : Prop :=
  ∃ u, Escaping (fun _ => True) u ∧ t = u ++ ['\\']

theorem LoneBackslash.endsOpen (h : LoneBackslash t) : EndsOpen t := by
  obtain ⟨u, hu, rfl⟩ := h
  have heven := not_endsOpen_of_escaping hu
  unfold EndsOpen at heven ⊢
  rw [List.reverse_append, List.reverse_singleton, List.singleton_append, List.takeWhile_cons_of_pos rfl,
    List.length_cons]
  omega

theorem LoneBackslash.after (hu : Escaping S u) (h : LoneBackslash t) : LoneBackslash (u ++ t) := by
  obtain ⟨v, hv, rfl⟩ := h
  have hu : Escaping (fun _ => True) u := hu.mono fun _ _ => trivial
  exact ⟨u ++ v, hu.append hv, by simp⟩

/-! ### Trimming -/

namespace Text

theorem trimEnd_concat_of_blank (hc : isBlank c) : trimEnd (t ++ [c]) = trimEnd t := by
  simp [trimEnd, hc]

theorem trimEnd_concat_of_not_blank (hc : ¬ isBlank c) : trimEnd (t ++ [c]) = t ++ [c] := by
  simp [trimEnd, hc]

theorem trimEnd_eq_self (hlast : ∀ c ∈ t.getLast?, ¬ isBlank c) : trimEnd t = t := by
  rcases List.eq_nil_or_concat t with rfl | ⟨u, c, rfl⟩
  · rfl
  · rw [List.concat_eq_append] at hlast ⊢
    exact trimEnd_concat_of_not_blank (hlast c (by simp))

theorem trimEnd_append_blanks {a : Text} (ha : Derivation.Blanks a) : trimEnd (t ++ a) = trimEnd t := by
  induction a using List.reverseRecOn with
  | nil => rw [List.append_nil]
  | append_singleton a c ih =>
    rw [← List.append_assoc, trimEnd_concat_of_blank (ha c (by simp))]
    exact ih fun d hd => ha d (List.mem_append_left _ hd)

end Text

/-- A text without a blank at its end has the property, too, or the blank was escaped. -/
def Sheds (P : Text → Prop) : Prop :=
  ∀ s c, Text.isBlank c → P (s ++ [c]) → P s ∨ LoneBackslash s

theorem Sheds.trimEnd {P : Text → Prop} (hP : Sheds P) (h : P t) :
    P (Text.trimEnd t) ∨ LoneBackslash (Text.trimEnd t) := by
  induction t using List.reverseRecOn with
  | nil => exact .inl h
  | append_singleton t c ih =>
    by_cases hc : Text.isBlank c
    · rw [Text.trimEnd_concat_of_blank hc]
      rcases hP t c hc h with h | ⟨u, hu, rfl⟩
      · exact ih h
      · rw [Text.trimEnd_concat_of_not_blank (by decide)]
        exact .inr ⟨u, hu, rfl⟩
    · rw [Text.trimEnd_concat_of_not_blank hc]
      exact .inl h

/-! ### Patterns -/

section

variable {P Q : Text → Prop}

theorem sheds_of_last (h : ∀ s c, P (s ++ [c]) → ¬ Text.isBlank c) : Sheds P := by
  intro s c hc hs
  exact absurd hc (h s c hs)

theorem Sheds.or (hP : Sheds P) (hQ : Sheds Q) : Sheds fun t => P t ∨ Q t := by
  intro s c hc h
  rcases h with h | h
  · exact (hP s c hc h).imp_left .inl
  · exact (hQ s c hc h).imp_left .inr

/-- It is the second text that ends with the blank, unless it is empty. -/
theorem Sheds.append (hP : Q [] → Sheds P) (hQ : Sheds Q) (hesc : ∀ x, P x → Escaping (fun _ => True) x) :
    Sheds fun t => ∃ x y, P x ∧ Q y ∧ t = x ++ y := by
  intro s c hc h
  obtain ⟨x, y, hx, hy, heq⟩ := h
  rcases List.eq_nil_or_concat y with rfl | ⟨y, d, rfl⟩
  · obtain rfl : s ++ [c] = x := by simpa using heq
    exact (hP hy s c hc hx).imp_left fun h => ⟨s, [], h, hy, by simp⟩
  · rw [List.concat_eq_append] at hy heq
    obtain ⟨rfl, rfl⟩ : s = x ++ y ∧ c = d := by
      rw [← List.append_assoc] at heq
      simpa using List.append_inj' heq rfl
    rcases hQ y c hc hy with h | h
    · exact .inl ⟨x, y, hx, h, rfl⟩
    · exact .inr (h.after (hesc x hx))

theorem Sheds.many (hP : Sheds P) (hesc : ∀ x, P x → Escaping (fun _ => True) x) : Sheds (Many P) := by
  intro s c hc h
  generalize ht : s ++ [c] = t at h
  induction h generalizing s with
  | nil => simp at ht
  | @cons x y hx hy ih =>
    rcases List.eq_nil_or_concat y with rfl | ⟨y, d, rfl⟩
    · rw [List.append_nil] at ht
      exact (hP s c hc (ht ▸ hx)).imp_left .one
    · rw [List.concat_eq_append] at hy ht ih
      obtain ⟨rfl, rfl⟩ : s = x ++ y ∧ c = d := by
        rw [← List.append_assoc] at ht
        simpa using List.append_inj' ht rfl
      rcases ih y rfl with h | h
      · exact .inl (.cons hx h)
      · exact .inr (h.after (hesc x hx))

theorem Sheds.several (hP : Sheds P) (hesc : ∀ x, P x → Escaping (fun _ => True) x) : Sheds (Several P) := by
  have h : Several P = fun t => ∃ x y, P x ∧ Many P y ∧ t = x ++ y := by
    ext t
    constructor
    · intro h
      obtain ⟨hx, hy⟩ := h
      exact ⟨_, _, hx, hy, rfl⟩
    · intro h
      obtain ⟨x, y, hx, hy, rfl⟩ := h
      exact .cons hx hy
  rw [h]
  exact .append (fun _ => hP) (hP.many hesc) hesc

end

/-! ### The grammar -/

namespace Derivation

theorem EscapeEnd.of_concat (h : EscapeEnd (t ++ [c])) : EscapeEnd t := by
  generalize ht : t ++ [c] = u at h
  cases h with
  | absent => simp at ht
  | both =>
    obtain ⟨rfl, -⟩ := List.append_inj' (show t ++ [c] = ['\r'] ++ ['\n'] from ht) rfl
    exact .blank (by decide)
  | blank _ =>
    obtain rfl : t = [] := by simpa using congrArg List.length ht
    exact .absent

theorem Escape.sheds : Sheds Escape := by
  intro s c hc h
  generalize ht : s ++ [c] = t at h
  rcases h with h | ⟨-, -, -, -⟩
  · obtain @⟨digits, e, hdigits, hleast, hmost, he⟩ := h
    -- the blank is taken from what ends the escape, if anything does
    rcases List.eq_nil_or_concat e with rfl | ⟨e, d, rfl⟩
    · -- the last digit is no blank
      have hmem : c ∈ digits := by
        have hlast : ('\\' :: digits).getLast? = some c := by simpa using congrArg List.getLast? ht.symm
        rw [List.getLast?_cons_of_ne_nil (List.length_pos_iff.1 hleast)] at hlast
        exact List.mem_of_getLast? hlast
      exact absurd hc (hdigits c hmem).isNamePlain.not_isBlank
    · rw [List.concat_eq_append] at he ht
      rw [← List.append_assoc, ← List.cons_append] at ht
      obtain ⟨rfl, rfl⟩ : s = '\\' :: (digits ++ e) ∧ c = d := by simpa using List.append_inj' ht rfl
      exact .inl (.hex (.mk hdigits hleast hmost he.of_concat))
  · obtain ⟨rfl, -⟩ := List.append_inj' (show s ++ [c] = ['\\'] ++ [_] from ht) rfl
    exact .inr ⟨[], .nil, rfl⟩

theorem NameChar.sheds : Sheds NameChar := by
  intro s c hc h
  rcases nameChar_iff.1 h with ⟨d, hd, heq⟩ | h
  · obtain ⟨-, hcd⟩ := List.append_inj' (show s ++ [c] = [] ++ [d] from heq) rfl
    obtain rfl := (List.cons.inj hcd).1
    exact absurd hc hd.not_isBlank
  · exact (Escape.sheds s c hc h).imp_left .escape

theorem NameStart.sheds : Sheds NameStart := by
  intro s c hc h
  obtain ⟨d, u, heq, hd⟩ := h.head
  rcases NameChar.sheds s c hc h.nameChar with hs | hs
  · obtain ⟨e, v, rfl, -⟩ := hs.head
    obtain rfl := (List.cons.inj heq).1
    exact .inl (hs.nameStart hd)
  · exact .inr hs

theorem escaping_of_nameStart (h : NameStart t) : Escaping (fun _ => True) t :=
  h.nameChar.escaping.mono fun _ _ => trivial

theorem sheds_many_nameChar : Sheds (Many NameChar) :=
  NameChar.sheds.many fun _ h => h.escaping.mono fun _ _ => trivial

end Derivation

open Pattern SelectorSyntax.Derivation Lexeme

/-- Two patterns in a row, where the second one is not empty or the first one sheds blanks as well. -/
theorem sheds_seq {p q : Pattern} (hp : q.Matches [] → Sheds p.Matches) (hq : Sheds q.Matches)
    (hesc : ∀ x, p.Matches x → Escaping (fun _ => True) x) : Sheds (Pattern.seq p q).Matches :=
  .append hp hq hesc

/-- A character that is told apart from what comes after it. -/
theorem sheds_char_seq {q : Pattern} (hc : c ≠ '\\') (hne : ¬ q.Matches []) (hq : Sheds q.Matches) :
    Sheds (Pattern.seq (char c) q).Matches := by
  refine sheds_seq (fun h => absurd h hne) hq ?_
  rw [matches_char]
  rintro x rfl
  exact .plain hc trivial .nil

theorem Derivation.Ident.sheds : Sheds Ident := by
  have hstart : Sheds (Pattern.seq nameStart (star nameChar)).Matches := by
    refine sheds_seq ?_ ?_ ?_
    · rw [matches_nameStart]
      exact fun _ => NameStart.sheds
    · rw [matches_star, matches_nameChar]
      exact sheds_many_nameChar
    · rw [matches_nameStart]
      exact fun _ => escaping_of_nameStart
  rw [← matches_ident]
  refine sheds_seq (p := optional (char '-')) ?_ hstart ?_
  · intro h
    obtain ⟨s, u, hs, -, heq⟩ := h
    rw [matches_nameStart] at hs
    obtain ⟨c, v, rfl, -⟩ := hs.head
    cases heq
  · rw [matches_optional, matches_char]
    intro x h
    rcases h with _ | rfl
    · exact .nil
    · exact .plain (by decide) trivial .nil

namespace Derivation

theorem Name.sheds : Sheds Name :=
  NameChar.sheds.several fun _ h => h.escaping.mono fun _ _ => trivial

theorem TypeSelector.sheds : Sheds TypeSelector := by
  rw [← Rule.matches_typeSelector]
  refine sheds_seq (p := optional Rule.namespaceQualifier) ?_ ?_ ?_
  · rw [matches_ident]
    exact fun h => absurd rfl h.ne_nil
  · rw [matches_ident]
    exact Ident.sheds
  · rw [matches_optional, Rule.matches_namespaceQualifier]
    exact fun x hx => (balanced_of_maybe (fun _ => NamespaceQualifier.balanced) hx).escaping

theorem Universal.sheds : Sheds Universal := by
  refine sheds_of_last fun s c h => ?_
  generalize ht : s ++ [c] = t at h
  obtain ⟨-⟩ := h
  obtain rfl : c = '*' := by simpa using (List.append_inj' ht rfl).2
  decide

theorem ClassSelector.sheds : Sheds ClassSelector := by
  rw [← Rule.matches_classSelector]
  apply sheds_char_seq (by decide)
  · rw [matches_ident]
    exact fun h => h.ne_nil rfl
  · rw [matches_ident]
    exact Ident.sheds

theorem IdSelector.sheds : Sheds IdSelector := by
  rw [← Rule.matches_idSelector]
  apply sheds_char_seq (by decide)
  · rw [matches_name]
    exact fun h => h.ne_nil rfl
  · rw [matches_name]
    exact Name.sheds

/-- What ends with a closing bracket does not end with a blank. -/
theorem not_isBlank_of_bracketed (h : Bracketed S (t ++ [c])) : ¬ Text.isBlank c := by
  generalize hu : t ++ [c] = u at h
  obtain @⟨a, u, o, d, -, -, -, hd⟩ := h
  obtain rfl : c = d := by
    have hu : t ++ [c] = (a ++ o :: u) ++ [d] := by simpa using hu
    simpa using (List.append_inj' hu rfl).2
  rcases hd with rfl | rfl <;> decide

theorem Attrib.sheds : Sheds Attrib :=
  sheds_of_last fun _ _ h => not_isBlank_of_bracketed (h.bracketed IsCallChar)

theorem Negation.sheds : Sheds Negation :=
  sheds_of_last fun _ _ h => not_isBlank_of_bracketed h.called.bracketed

theorem Pseudo.sheds : Sheds Pseudo := by
  intro s c hc h
  rcases h.ident_or_called with ⟨k, i, hk, hi, heq⟩ | h
  · have hsheds : Sheds fun t => ∃ x y, Colons x ∧ Ident y ∧ t = x ++ y :=
      .append (fun h => absurd rfl h.ne_nil) Ident.sheds fun _ hx => hx.escaping.mono fun _ _ => trivial
    rcases hsheds s c hc ⟨k, i, hk, hi, heq⟩ with ⟨x, y, hx, hy, rfl⟩ | h
    · exact .inl (.ident hx hy)
    · exact .inr h
  · exact absurd hc (not_isBlank_of_bracketed h.bracketed)

theorem Qualifier.sheds : Sheds Qualifier := by
  intro s c hc h
  rcases h with h | h | h | h | h
  · exact (IdSelector.sheds s c hc h).imp_left .idSelector
  · exact (ClassSelector.sheds s c hc h).imp_left .classSelector
  · exact (Attrib.sheds s c hc h).imp_left .attrib
  · exact (Pseudo.sheds s c hc h).imp_left .pseudo
  · exact (Negation.sheds s c hc h).imp_left .negation

theorem escaping_of_qualifier (h : Qualifier t) : Escaping (fun _ => True) t :=
  h.balanced.escaping

theorem SimpleSelectorSequence.sheds : Sheds SimpleSelectorSequence := by
  rw [← Rule.matches_simpleSelectorSequence]
  refine Sheds.or (P := (Pattern.seq Rule.elementSelector (star Rule.qualifier)).Matches) ?_ ?_
  · refine sheds_seq ?_ ?_ ?_
    · rw [Rule.matches_elementSelector]
      exact fun _ => .or TypeSelector.sheds Universal.sheds
    · rw [matches_star, Rule.matches_qualifier]
      exact Qualifier.sheds.many fun _ => escaping_of_qualifier
    · rw [Rule.matches_elementSelector]
      intro x h
      rcases h with h | h
      · exact h.balanced.escaping
      · exact h.balanced.escaping
  · rw [matches_plus, Rule.matches_qualifier]
    exact Qualifier.sheds.several fun _ => escaping_of_qualifier

theorem CombinedSequence.sheds : Sheds CombinedSequence := by
  rw [← Rule.matches_combinedSequence]
  refine sheds_seq ?_ ?_ ?_
  · rw [Rule.matches_simpleSelectorSequence]
    intro h
    obtain ⟨_, _, heq, -⟩ := (Selector.mk h .nil).head
    cases heq
  · rw [Rule.matches_simpleSelectorSequence]
    exact SimpleSelectorSequence.sheds
  · rw [Rule.matches_combinator]
    exact fun _ h => h.balanced.escaping

theorem Selector.sheds : Sheds Selector := by
  rw [← Rule.matches_selector]
  refine sheds_seq (p := Rule.simpleSelectorSequence) ?_ ?_ ?_
  · rw [Rule.matches_simpleSelectorSequence]
    exact fun _ => SimpleSelectorSequence.sheds
  · rw [matches_star, Rule.matches_combinedSequence]
    exact CombinedSequence.sheds.many fun _ h => h.balanced.escaping
  · rw [Rule.matches_simpleSelectorSequence]
    exact fun _ h => h.balanced.escaping

/-- The blanks around a selector go, and those that it ends with itself. -/
theorem Selector.trim {b a : Text} (h : Selector t) (hb : Blanks b) (ha : Blanks a) :
    Text.trim (b ++ t ++ a) = Text.trimEnd t := by
  obtain ⟨c, u, rfl, hc⟩ := h.head
  have hblank : ¬ Text.isBlank c := by
    intro h
    exact not_isCombinatorChar_of_head hc (.inr (.inr (.inr h)))
  rw [Text.trim, List.append_assoc, List.dropWhile_append_of_pos hb, List.cons_append,
    List.dropWhile_cons_of_neg hblank, ← List.cons_append, Text.trimEnd_append_blanks ha]

end Derivation

end SelectorSyntax
