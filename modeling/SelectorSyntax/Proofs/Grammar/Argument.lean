import SelectorSyntax.Proofs.Grammar.Shape
import SelectorSyntax.Proofs.Text.Case

/-!
# Narrow rules within wide ones

The rules for the argument `an+b`, for `:lang()` and for vendor names are narrower than those for expressions and
pseudos.  A sign, a coefficient and an offset are read as terms of an expression, where a coefficient with its `n` is a
dimension; the blanks before the formula belong to the call, and those inside and after it to the terms before them.
-/

namespace SelectorSyntax.Derivation

variable {t s i o x : Text}

/-! ### Expressions -/

theorem blanks_nil : Blanks [] := by
  simp [Blanks]

theorem ExpressionTerm.part (h : ExpressionTerm t) : ExpressionPart t := by
  simpa using ExpressionPart.mk h blanks_nil

theorem ExpressionTerm.expression (h : ExpressionTerm t) : Expression t := by
  have hone : Expression (t ++ []) := .cons h.part .nil
  rwa [List.append_nil] at hone

theorem Sign.term (h : Sign t) : ExpressionTerm t := by
  cases h with
  | minus => exact .minus
  | plus => exact .plus blanks_nil

theorem Integer.term (h : Integer t) : ExpressionTerm t :=
  .number (.integer h.1 h.2)

theorem Expression.sign_append (hs : Maybe Sign s) (ht : Expression t) : Expression (s ++ t) := by
  rcases hs with _ | hs
  · exact ht
  · exact .cons hs.term.part ht.many

/-- Blanks at the end belong to the last term. -/
theorem Expression.append_blanks {b : Text} (h : Expression t) (hb : Blanks b) : Expression (t ++ b) := by
  obtain @⟨x, y, hx, hy⟩ := h
  induction hy generalizing x with
  | nil =>
    obtain @⟨t, a, ht, ha⟩ := hx
    have hblanks : Blanks (a ++ b) := List.forall_mem_append.2 ⟨ha, hb⟩
    have hone : Expression (t ++ (a ++ b) ++ []) := .cons (.mk ht hblanks) .nil
    simpa using hone
  | cons hz _ ih =>
    rw [List.append_assoc]
    exact .cons hx (ih hz).many

/-! ### The argument `an+b` -/

/-- The blanks before the sign of an offset belong to the term before it. -/
theorem ExpressionTerm.append_offset (hx : ExpressionTerm x) (ho : Maybe NthOffset o) : Expression (x ++ o) := by
  rcases ho with _ | ho
  · simpa using hx.expression
  · obtain @⟨a, s, b, i, ha, hs, hb, hi⟩ := ho
    have hrest : Many ExpressionPart (s ++ b ++ i) := .cons (.mk hs.term hb) (.one hi.term.part)
    have hall : Expression (x ++ a ++ (s ++ b ++ i)) := .cons (.mk hx ha) hrest
    simpa using hall

theorem LetterN.term (hi : Maybe Integer i) (ht : LetterN t) : ExpressionTerm (i ++ t) := by
  have hident : Ident t := by simpa using Ident.mk .absent ht.nameStart .nil
  rcases hi with _ | hi
  · exact .ident hident
  · exact .dimension (.integer hi.1 hi.2) hident

theorem Odd.ident (h : Odd t) : Ident t := by
  obtain ⟨ho, hd, hd'⟩ := h
  rw [List.append_assoc]
  exact .mk .absent ho.nameStart (.cons hd.nameStart.nameChar (.one hd'.nameStart.nameChar))

theorem Even.ident (h : Even t) : Ident t := by
  obtain ⟨he, hv, he', hn⟩ := h
  have hrest := Many.cons he'.nameStart.nameChar (.one hn.nameStart.nameChar)
  rw [List.append_assoc, List.append_assoc]
  exact .mk .absent he.nameStart (.cons hv.nameStart.nameChar hrest)

theorem NthFormula.expression (h : NthFormula t) : Expression t := by
  rcases h with @⟨s, i, n, o, hs, hi, hn, ho⟩ | ⟨hs, hi⟩ | h | h
  · have hall : Expression (s ++ (i ++ n ++ o)) := .sign_append hs ((LetterN.term hi hn).append_offset ho)
    simpa using hall
  · exact .sign_append hs hi.term.expression
  · exact (ExpressionTerm.ident h.ident).expression
  · exact (ExpressionTerm.ident h.ident).expression

/-- The argument of a structural pseudo-class is an expression after blanks. -/
theorem Nth.expression (h : Nth t) : ∃ a e, Blanks a ∧ Expression e ∧ t = a ++ e := by
  obtain ⟨ha, hf, hb⟩ := h
  exact ⟨_, _, ha, hf.expression.append_blanks hb, List.append_assoc ..⟩

/-! ### Pseudos -/

theorem Lang.exists_name (h : Lang t) : ∃ name i, Text.IsWord name ∧ name.length = 4 ∧ Ident i ∧
    t = ':' :: (name ++ '(' :: (i ++ [')'])) := by
  obtain @⟨l, a, n, g, i, hl, ha, hn, hg, hi⟩ := h
  refine ⟨[l, a, n, g], i, ?_, rfl, hi, rfl⟩
  rcases hl with rfl | rfl <;> rcases ha with rfl | rfl <;> rcases hn with rfl | rfl <;> rcases hg with rfl | rfl <;>
    decide

theorem Lang.pseudo (h : Lang t) : Pseudo t := by
  obtain ⟨name, i, hname, -, hi, rfl⟩ := h.exists_name
  exact .functional .one (.mk hname.ident blanks_nil (ExpressionTerm.ident hi).expression)

theorem VendorPseudo.exists_mark (h : VendorPseudo t) : ∃ c m u, Colons c ∧ (m = '-' ∨ m = '_') ∧ t = c ++ m :: u := by
  obtain ⟨hc, hm, -⟩ := h
  exact ⟨_, _, _, hc, hm, rfl⟩

theorem VendorPseudo.pseudo (h : VendorPseudo t) : Pseudo t := by
  obtain @⟨c, s, u, s', u', m, hc, hm, hs, hu, hs', hu'⟩ := h
  have hrest : Many NameChar (u ++ '-' :: (s' ++ u')) := hu.append (.cons .hyphen (.cons hs'.nameChar hu'))
  refine .ident hc ?_
  rw [List.append_assoc]
  rcases hm with rfl | rfl
  · exact .mk (.present rfl) hs hrest
  · exact .mk .absent (.letter (.inl rfl)) (.cons hs.nameChar hrest)

end SelectorSyntax.Derivation
