import SelectorSyntax.Proofs.Grammar.Name

/-!
# Shapes

Where the texts of the grammar have their brackets.  Names have none (`Ident.escaping`), and an attribute, a negation
and a function end with the bracket that closes the first one of them (`Attrib.bracketed`, `Negation.called`,
`FunctionalPseudo.called`).  A whole selector is balanced (`Selector.balanced`), so a comma outside of quotes never
belongs to it.
-/

namespace SelectorSyntax.Derivation

variable {t u : Text} {c : Char}

/-! ### Parts without brackets -/

theorem IsNameInner.not_isMarker (h : IsNameInner c) : ¬ (c = ',' ∨ IsQuote c ∨ IsOpening c ∨ IsClosing c) := by
  intro h
  rcases h with rfl | (rfl | rfl) | (rfl | rfl) | (rfl | rfl) <;> exact absurd h (by decide)

theorem Ident.balanced (h : Ident t) : Balanced t :=
  h.escaping.balanced fun _ => IsNameInner.not_isMarker

theorem balanced_of_many_nameChar (h : Many NameChar t) : Balanced t :=
  (escaping_of_many_nameChar h).balanced fun _ => IsNameInner.not_isMarker

theorem Blanks.escaping (h : Blanks t) : Escaping IsNameInner t :=
  escaping_of_inner fun c hc => .inr (h c hc)

theorem balanced_of_blanks (h : Blanks t) : Balanced t :=
  h.escaping.balanced fun _ => IsNameInner.not_isMarker

theorem IsDigit.not_isMarker (h : IsDigit c) : ¬ IsMarker c := by
  intro h
  rcases h with rfl | rfl | (rfl | rfl) | (rfl | rfl) | (rfl | rfl) <;> exact absurd h (by decide)

theorem Digits.not_isMarker (h : Digits t) : ∀ c ∈ t, ¬ IsMarker c :=
  fun c hc => IsDigit.not_isMarker (h c hc)

theorem Number.balanced (h : Number t) : Balanced t := by
  rcases h with ⟨h, -⟩ | ⟨ha, hb, -⟩
  · exact balanced_of_forall h.not_isMarker
  · have hpoint : ¬ IsMarker '.' := by decide
    exact (balanced_of_forall ha.not_isMarker).append (.plain hpoint (balanced_of_forall hb.not_isMarker))

theorem Newline.escaping {q : Char} (hq : IsQuote q) (h : Newline t) : Escaping (· ≠ q) ('\\' :: t) := by
  cases h with
  | both =>
    refine .pair (.plain (by decide) ?_ .nil)
    rintro rfl
    exact absurd hq (by decide)
  | _ => exact .pair .nil

theorem StringPart.escaping {q : Char} (hq : IsQuote q) (h : StringPart q t) : Escaping (· ≠ q) t := by
  have hinner {d : Char} (hd : IsNameInner d) : d ≠ q := by
    rintro rfl
    exact hd.not_isMarker (.inr (.inl hq))
  rcases h with ⟨-, -, -, hb, hne⟩ | h | h | h
  · exact .plain hb hne .nil
  · exact h.escaping hq
  · have hplain : IsNamePlain _ := .inr (.inr (.inr h))
    exact .plain hplain.ne_backslash (hinner (.inl hplain)) .nil
  · exact (NameChar.escape h).escaping.mono fun _ => hinner

theorem escaping_of_many_stringPart {q : Char} (hq : IsQuote q) (h : Many (StringPart q) t) : Escaping (· ≠ q) t := by
  induction h with
  | nil => exact .nil
  | cons hx _ ih => exact (hx.escaping hq).append ih

theorem QuotedString.balanced (h : QuotedString t) : Balanced t := by
  rcases h with h | h
  · exact .quoted (.inl rfl) (escaping_of_many_stringPart (.inl rfl) h) .nil
  · exact .quoted (.inr rfl) (escaping_of_many_stringPart (.inr rfl) h) .nil

theorem NamespaceQualifier.balanced (h : NamespaceQualifier t) : Balanced t := by
  have hstar : ¬ IsMarker '*' := by decide
  have hbar : ¬ IsMarker '|' := by decide
  rcases h with _ | h | _
  · exact .plain hbar .nil
  · exact h.balanced.append (.plain hbar .nil)
  · exact .plain hstar (.plain hbar .nil)

theorem balanced_of_maybe {P : Text → Prop} (hP : ∀ x, P x → Balanced x) (h : Maybe P t) : Balanced t := by
  rcases h with _ | h
  · exact .nil
  · exact hP t h

theorem balanced_of_many {P : Text → Prop} (hP : ∀ x, P x → Balanced x) (h : Many P t) : Balanced t := by
  induction h with
  | nil => exact .nil
  | cons hx _ ih => exact (hP _ hx).append ih

/-! ### Simple selectors -/

theorem TypeSelector.balanced (h : TypeSelector t) : Balanced t := by
  obtain ⟨hn, hi⟩ := h
  exact (balanced_of_maybe (fun _ => NamespaceQualifier.balanced) hn).append hi.balanced

theorem Universal.balanced (h : Universal t) : Balanced t := by
  obtain ⟨hn⟩ := h
  have hstar : ¬ IsMarker '*' := by decide
  exact (balanced_of_maybe (fun _ => NamespaceQualifier.balanced) hn).append (.plain hstar .nil)

theorem ClassSelector.balanced (h : ClassSelector t) : Balanced t := by
  obtain ⟨hi⟩ := h
  have hdot : ¬ IsMarker '.' := by decide
  exact .plain hdot hi.balanced

theorem IdSelector.balanced (h : IdSelector t) : Balanced t := by
  obtain ⟨hn⟩ := h
  have hhash : ¬ IsMarker '#' := by decide
  exact .plain hhash (balanced_of_many_nameChar hn.many)

theorem AttributeOperator.balanced (h : AttributeOperator t) : Balanced t := by
  have hequal : Balanced ['='] := .plain (by decide) .nil
  cases h with
  | equal => exact hequal
  | _ => exact .plain (by decide) hequal

theorem AttributeValue.balanced (h : AttributeValue t) : Balanced t := by
  rcases h with h | h
  · exact h.balanced
  · exact h.balanced

theorem AttributeTest.balanced (h : AttributeTest t) : Balanced t := by
  obtain ⟨ho, ha, hv, hb⟩ := h
  exact ((ho.balanced.append (balanced_of_blanks ha)).append hv.balanced).append (balanced_of_blanks hb)

theorem Attrib.bracketed (h : Attrib t) (S : Char → Prop) : Bracketed S t := by
  obtain ⟨ha, hn, hi, hb, hx⟩ := h
  have hn := balanced_of_maybe (fun _ => NamespaceQualifier.balanced) hn
  have hx := balanced_of_maybe (fun _ => AttributeTest.balanced) hx
  have hu := ((((balanced_of_blanks ha).append hn).append hi.balanced).append (balanced_of_blanks hb)).append hx
  exact .mk (a := []) .nil (.inr rfl) hu (.inr rfl)

theorem ExpressionTerm.balanced (h : ExpressionTerm t) : Balanced t := by
  have hplus : ¬ IsMarker '+' := by decide
  have hminus : ¬ IsMarker '-' := by decide
  rcases h with ha | _ | ⟨hn, hi⟩ | h | h | h
  · exact (balanced_of_blanks ha).append (.plain hplus .nil)
  · exact .plain hminus .nil
  · exact hn.balanced.append hi.balanced
  · exact h.balanced
  · exact h.balanced
  · exact h.balanced

theorem Expression.balanced (h : Expression t) : Balanced t := by
  refine balanced_of_many (P := ExpressionPart) (fun x hx => ?_) h.many
  obtain ⟨ht, ha⟩ := hx
  exact ht.balanced.append (balanced_of_blanks ha)

/-- A name after colons, and brackets around something balanced. -/
inductive Called : Text → Prop
  | mk {c i u : Text} : Colons c → Ident i → Balanced u → Called (c ++ i ++ '(' :: (u ++ [')']))

theorem FunctionalPseudo.called (hc : Colons u) (h : FunctionalPseudo t) : Called (u ++ t) := by
  obtain ⟨hi, ha, he⟩ := h
  rw [← List.append_assoc]
  exact .mk hc hi ((balanced_of_blanks ha).append he.balanced)

/-- A letter of a keyword may begin a name, if no hexadecimal digit stands for it after a backslash. -/
theorem Letter.nameStart {cases : List Char} {codes : List Text} {afterBackslash : Prop}
    (hcases : cases.all fun c => IsLetter c) (hplain : afterBackslash → cases.all fun c => ¬ IsHex c)
    (hcodes : codes.all fun w => w.length = 2 ∧ w.all (IsHex ·)) (h : Letter cases codes afterBackslash t) :
    NameStart t := by
  simp only [List.all_eq_true, decide_eq_true_eq] at hcases hplain hcodes
  rcases h with hc | ⟨hz, hlen, hw, he⟩ | ⟨hafter, hc⟩
  · exact .letter (hcases _ hc)
  · obtain ⟨hw, hhex⟩ := hcodes _ hw
    refine .escape (.hex (.mk ?_ ?_ ?_ he))
    · intro c hc
      rcases List.mem_append.1 hc with hc | hc
      · rw [hz c hc]
        decide
      · exact hhex c hc
    · simp [hw]
    · simp [hw]
      omega
  · have hletter := hcases _ hc
    refine .escape (.char ?_ ?_ ?_ (hplain hafter _ hc)) <;> rintro rfl <;> exact absurd hletter (by decide)

theorem LetterD.nameStart (h : LetterD t) : NameStart t :=
  Letter.nameStart (by decide) (fun h => h.elim) (by decide) h

theorem LetterE.nameStart (h : LetterE t) : NameStart t :=
  Letter.nameStart (by decide) (fun h => h.elim) (by decide) h

theorem LetterN.nameStart (h : LetterN t) : NameStart t :=
  Letter.nameStart (by decide) (fun _ => by decide) (by decide) h

theorem LetterO.nameStart (h : LetterO t) : NameStart t :=
  Letter.nameStart (by decide) (fun _ => by decide) (by decide) h

theorem LetterT.nameStart (h : LetterT t) : NameStart t :=
  Letter.nameStart (by decide) (fun _ => by decide) (by decide) h

theorem LetterV.nameStart (h : LetterV t) : NameStart t :=
  Letter.nameStart (by decide) (fun _ => by decide) (by decide) h

theorem NotOpening.ident (h : NotOpening t) : ∃ i, Ident i ∧ t = ':' :: (i ++ ['(']) := by
  obtain @⟨n, o, t, hn, ho, ht⟩ := h
  refine ⟨n ++ o ++ t, ?_, rfl⟩
  rw [List.append_assoc]
  exact .mk .absent hn.nameStart (.cons ho.nameStart.nameChar (.one ht.nameStart.nameChar))

/-- What may stand before the opening bracket of a call. -/
def IsCallChar (c : Char) : Prop :=
  c = ':' ∨ IsNameInner c

theorem Colons.escaping (h : Colons t) : Escaping IsCallChar t := by
  cases h with
  | one => exact .plain (by decide) (.inl rfl) .nil
  | two => exact .plain (by decide) (.inl rfl) (.plain (by decide) (.inl rfl) .nil)

theorem Called.bracketed (h : Called t) : Bracketed IsCallChar t := by
  obtain ⟨hc, hi, hu⟩ := h
  exact .mk (hc.escaping.append (hi.escaping.mono fun _ => .inr)) (.inl rfl) hu (.inl rfl)

theorem IsCallChar.not_isMarker (h : IsCallChar c) : ¬ (c = ',' ∨ IsQuote c ∨ IsOpening c ∨ IsClosing c) := by
  rcases h with rfl | h
  · decide
  · exact h.not_isMarker

theorem Called.balanced (h : Called t) : Balanced t :=
  h.bracketed.balanced fun _ => IsCallChar.not_isMarker

theorem Pseudo.ident_or_called (h : Pseudo t) : (∃ c i, Colons c ∧ Ident i ∧ t = c ++ i) ∨ Called t := by
  rcases h with ⟨hc, hi⟩ | ⟨hc, hf⟩
  · exact .inl ⟨_, _, hc, hi, rfl⟩
  · exact .inr (hf.called hc)

theorem Pseudo.balanced (h : Pseudo t) : Balanced t := by
  rcases h.ident_or_called with ⟨c, i, hc, hi, rfl⟩ | h
  · exact (hc.escaping.balanced fun _ => IsCallChar.not_isMarker).append hi.balanced
  · exact h.balanced

theorem Attrib.balanced (h : Attrib t) : Balanced t :=
  (h.bracketed IsCallChar).balanced fun _ => IsCallChar.not_isMarker

theorem NegationArg.balanced (h : NegationArg t) : Balanced t := by
  rcases h with h | h | h | h | h | h
  · exact h.balanced
  · exact h.balanced
  · exact h.balanced
  · exact h.balanced
  · exact h.balanced
  · exact h.balanced

theorem Negation.called (h : Negation t) : Called t := by
  obtain ⟨hh, ha, hx, hb⟩ := h
  obtain ⟨i, hi, rfl⟩ := hh.ident
  have hu := ((balanced_of_blanks ha).append hx.balanced).append (balanced_of_blanks hb)
  simpa using Called.mk .one hi hu

theorem Qualifier.balanced (h : Qualifier t) : Balanced t := by
  rcases h with h | h | h | h | h
  · exact h.balanced
  · exact h.balanced
  · exact h.balanced
  · exact h.balanced
  · exact h.called.balanced

/-! ### Selectors -/

theorem Combinator.balanced (h : Combinator t) : Balanced t := by
  rcases h with ⟨ha, hc, hb⟩ | ⟨h, -⟩
  · refine (balanced_of_blanks ha).append (.plain ?_ (balanced_of_blanks hb))
    rcases hc with rfl | rfl | rfl <;> decide
  · exact balanced_of_blanks h

theorem SimpleSelectorSequence.balanced (h : SimpleSelectorSequence t) : Balanced t := by
  have hmany {u : Text} (hu : Many Qualifier u) : Balanced u := balanced_of_many (fun _ => Qualifier.balanced) hu
  rcases h with ⟨hs, hq⟩ | ⟨hs, hq⟩ | hq
  · exact hs.balanced.append (hmany hq)
  · exact hs.balanced.append (hmany hq)
  · exact hmany hq.many

theorem CombinedSequence.balanced (h : CombinedSequence t) : Balanced t := by
  obtain ⟨hc, hs⟩ := h
  exact hc.balanced.append hs.balanced

theorem Selector.balanced (h : Selector t) : Balanced t := by
  obtain ⟨hs, hr⟩ := h
  exact hs.balanced.append (balanced_of_many (fun _ => CombinedSequence.balanced) hr)

end SelectorSyntax.Derivation
