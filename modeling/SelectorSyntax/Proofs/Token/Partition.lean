import SelectorSyntax.Proofs.Grammar.Argument
import SelectorSyntax.Proofs.Token.Kind

/-!
# The categories as a partition

A text is an instance of at most one production of simple selectors and combinators, but for negations that are
pseudos as well: the classifier may try the productions in any order that has negations before pseudos.

The argument of a pseudo is an expression, that of a negation a simple selector, and what is both is an identifier
(`NegationArg.ident_of_expression`):

* A namespace or any other simple selector but a class has a character in front of its first quote that expressions
  have in strings only (`UpToQuote.not_append`).
* A class begins with a point, which an expression may do as well, but then a digit comes next
  (`Expression.digitAtPoint`).
-/

namespace SelectorSyntax

namespace Derivation

variable {S : Char → Prop} {t u v x y a b e : Text} {c d : Char}

/-! ### Expressions up to the first quote -/

/-- A text whose characters have the property up to its first quote. -/
inductive UpToQuote (S : Char → Prop) : Text → Prop
  | whole {t : Text} : Escaping S t → UpToQuote S t
  | cut {u v : Text} {q : Char} : Escaping S u → IsQuote q → UpToQuote S (u ++ q :: v)

theorem UpToQuote.after (hx : Escaping S x) (hy : UpToQuote S y) : UpToQuote S (x ++ y) := by
  cases hy with
  | whole hy => exact .whole (hx.append hy)
  | cut hu hq =>
    rw [← List.append_assoc]
    exact .cut (hx.append hu) hq

theorem UpToQuote.append (hx : UpToQuote S x) (hy : UpToQuote S y) : UpToQuote S (x ++ y) := by
  cases hx with
  | whole hx => exact hy.after hx
  | cut hu hq =>
    rw [List.append_assoc, List.cons_append]
    exact .cut hu hq

/-- The first character without the property is a quote. -/
theorem UpToQuote.not_append (hS : ∀ c, S c → ¬ IsQuote c) (hu : Escaping S u) (hc : ¬ (c = '\\' ∨ S c))
    (hquote : ¬ IsQuote c) : ¬ UpToQuote S (u ++ c :: t) := by
  intro h
  generalize hw : u ++ c :: t = w at h
  cases h with
  | whole h => exact hc (hu.allowed_of_append (hw ▸ h))
  | @cut u' v q hu' hq =>
    have hcut : ¬ (q = '\\' ∨ S q) := by
      intro h
      rcases h with h | h
      · exact hq.ne_backslash h
      · exact hS q h hq
    obtain rfl := hu.eq_of_cut hu' hc hcut hw
    obtain rfl : c = q := (List.cons.inj (List.append_cancel_left hw)).1
    exact hquote hq

/-- A character that an expression may have outside of its strings. -/
def IsExpressionChar (c : Char) : Prop :=
  c = '+' ∨ c = '.' ∨ IsNameInner c

instance : DecidablePred IsExpressionChar := fun _ => inferInstanceAs (Decidable (_ ∨ _))

theorem IsExpressionChar.not_isQuote (h : IsExpressionChar c) : ¬ IsQuote c := by
  rintro (rfl | rfl) <;> exact absurd h (by decide)

theorem expression_of_inner (h : Escaping IsNameInner t) : Escaping IsExpressionChar t :=
  h.mono fun _ hc => .inr (.inr hc)

theorem Digits.escaping (h : Digits t) : Escaping IsNameInner t :=
  escaping_of_inner fun c hc => .inl (.inr (.inl (h c hc)))

theorem Number.escaping (h : Number t) : Escaping IsExpressionChar t := by
  rcases h with ⟨h, -⟩ | ⟨ha, hb, -⟩
  · exact expression_of_inner h.escaping
  · have hfraction := Escaping.plain (by decide) (.inr (.inl rfl)) (expression_of_inner hb.escaping)
    exact (expression_of_inner ha.escaping).append hfraction

theorem ExpressionTerm.upToQuote (h : ExpressionTerm t) : UpToQuote IsExpressionChar t := by
  rcases h with ha | _ | ⟨hn, hi⟩ | hn | (_ | _) | hi
  · exact .whole ((expression_of_inner ha.escaping).append (.plain (by decide) (.inl rfl) .nil))
  · exact .whole (.plain (by decide) (by decide) .nil)
  · exact .whole (hn.escaping.append (expression_of_inner hi.escaping))
  · exact .whole hn.escaping
  · exact .cut .nil (.inl rfl)
  · exact .cut .nil (.inr rfl)
  · exact .whole (expression_of_inner hi.escaping)

theorem Expression.upToQuote (h : Expression t) : UpToQuote IsExpressionChar t := by
  have hmany : Many ExpressionPart t := h.many
  clear h
  induction hmany with
  | nil => exact .whole .nil
  | cons hx _ ih =>
    obtain ⟨ht, ha⟩ := hx
    exact (ht.upToQuote.append (.whole (expression_of_inner ha.escaping))).append ih

/-! ### Expressions that begin with a point -/

/-- The first character that is no blank is no point, or it is one with a digit after it. -/
inductive DigitAtPoint : Text → Prop
  | point {a u : Text} {d : Char} : Blanks a → IsDigit d → DigitAtPoint (a ++ '.' :: d :: u)
  | other {a u : Text} {c : Char} : Blanks a → ¬ Text.isBlank c → c ≠ '.' → DigitAtPoint (a ++ c :: u)

theorem DigitAtPoint.append (h : DigitAtPoint x) : DigitAtPoint (x ++ y) := by
  cases h with
  | point ha hd => simpa using DigitAtPoint.point ha hd
  | other ha hc hne => simpa using DigitAtPoint.other ha hc hne

theorem DigitAtPoint.after (ha : Blanks a) (h : DigitAtPoint x) : DigitAtPoint (a ++ x) := by
  cases h with
  | point hb hd =>
    rw [← List.append_assoc]
    exact .point (List.forall_mem_append.2 ⟨ha, hb⟩) hd
  | other hb hc hne =>
    rw [← List.append_assoc]
    exact .other (List.forall_mem_append.2 ⟨ha, hb⟩) hc hne

/-- The first character after blanks is told by the text. -/
theorem eq_of_blanks (ha : Blanks a) (hb : Blanks b) (hc : ¬ Text.isBlank c) (hd : ¬ Text.isBlank d)
    (h : a ++ c :: u = b ++ d :: v) : c = d ∧ u = v := by
  have hdrop := congrArg (List.dropWhile Text.isBlank) h
  rw [List.dropWhile_append_of_pos ha, List.dropWhile_append_of_pos hb, List.dropWhile_cons_of_neg hc,
    List.dropWhile_cons_of_neg hd] at hdrop
  exact List.cons.inj hdrop

theorem DigitAtPoint.exists_digit (ha : Blanks a) (h : DigitAtPoint (a ++ '.' :: u)) :
    ∃ d v, u = d :: v ∧ IsDigit d := by
  generalize hw : a ++ '.' :: u = w at h
  cases h with
  | point hb hd => exact ⟨_, _, (eq_of_blanks ha hb (by decide) (by decide) hw).2, hd⟩
  | other hb hc hne => exact absurd (eq_of_blanks ha hb (by decide) hc hw).1.symm hne

theorem Integer.digitAtPoint (h : Integer t) : DigitAtPoint t := by
  obtain ⟨hdigits, hne⟩ := h
  obtain ⟨c, u, rfl⟩ := List.exists_cons_of_ne_nil hne
  have hc : IsDigit c := hdigits c (List.mem_cons_self ..)
  refine .other blanks_nil (IsNamePlain.not_isBlank (.inr (.inl hc))) ?_
  rintro rfl
  exact absurd hc (by decide)

theorem Number.digitAtPoint (h : Number t) : DigitAtPoint t := by
  rcases h with ⟨h, hne⟩ | @⟨n, m, hn, hm, hne⟩
  · exact Integer.digitAtPoint ⟨h, hne⟩
  · cases n with
    | nil =>
      obtain ⟨d, m, rfl⟩ := List.exists_cons_of_ne_nil hne
      exact .point blanks_nil (hm d (List.mem_cons_self ..))
    | cons c n => exact (Integer.digitAtPoint ⟨hn, List.cons_ne_nil _ _⟩).append

theorem Ident.digitAtPoint (h : Ident t) : DigitAtPoint t := by
  obtain ⟨c, u, rfl, hc⟩ := h.head
  refine .other blanks_nil ?_ ?_
  · rcases hc with rfl | rfl | hc | hc
    · decide
    · decide
    · exact IsNamePlain.not_isBlank (.inl hc)
    · exact IsNamePlain.not_isBlank (.inr (.inr (.inr hc)))
  · rintro rfl
    exact absurd hc (by decide)

theorem ExpressionTerm.digitAtPoint (h : ExpressionTerm t) : DigitAtPoint t := by
  rcases h with ha | _ | ⟨hn, -⟩ | hn | (_ | _) | hi
  · exact .other ha (by decide) (by decide)
  · exact .other blanks_nil (by decide) (by decide)
  · exact hn.digitAtPoint.append
  · exact hn.digitAtPoint
  · exact .other blanks_nil (by decide) (by decide)
  · exact .other blanks_nil (by decide) (by decide)
  · exact hi.digitAtPoint

theorem Expression.digitAtPoint (h : Expression t) : DigitAtPoint t := by
  obtain ⟨⟨ht, -⟩, -⟩ := h
  exact ht.digitAtPoint.append.append

theorem IsNameHead.not_isDigit (h : IsNameHead c) : ¬ IsDigit c := by
  intro hd
  rcases h with rfl | rfl | (rfl | h | h) | h
  · exact absurd hd (by decide)
  · exact absurd hd (by decide)
  · exact absurd hd (by decide)
  · exact absurd (Char.le_trans h.1 hd.2) (by decide)
  · exact absurd (Char.le_trans h.1 hd.2) (by decide)
  · have hle : c.toNat ≤ '9'.toNat := hd.2
    exact absurd (Nat.le_trans h hle) (by decide)

/-! ### Arguments -/

/-- A character that a simple selector may have in front of its first quote, but an expression may not. -/
def IsSelectorChar (c : Char) : Prop :=
  c = '|' ∨ c = '*' ∨ c = '#' ∨ c = '[' ∨ c = ':'

theorem IsSelectorChar.not_isExpressionChar (h : IsSelectorChar c) :
    ¬ (c = '\\' ∨ IsExpressionChar c) ∧ ¬ IsQuote c := by
  rcases h with rfl | rfl | rfl | rfl | rfl <;> decide

theorem NamespaceQualifier.exists_selectorChar (h : NamespaceQualifier t) : ∃ u c v, Escaping IsNameInner u ∧
    IsSelectorChar c ∧ t = u ++ c :: v := by
  rcases h with _ | hi | _
  · exact ⟨[], '|', [], .nil, .inl rfl, rfl⟩
  · exact ⟨_, '|', [], hi.escaping, .inl rfl, rfl⟩
  · exact ⟨[], '*', ['|'], .nil, .inr (.inl rfl), rfl⟩

/-- What a simple selector is, if it is no identifier and no class, is told by a character that no expression has. -/
theorem NegationArg.ident_or (h : NegationArg t) : Ident t ∨ ClassSelector t ∨
    ∃ u c v, Escaping IsNameInner u ∧ IsSelectorChar c ∧ t = u ++ c :: v := by
  have hqualified {n i : Text} (hn : NamespaceQualifier n) : ∃ u c v, Escaping IsNameInner u ∧ IsSelectorChar c ∧
      n ++ i = u ++ c :: v := by
    obtain ⟨u, c, v, hu, hc, rfl⟩ := hn.exists_selectorChar
    exact ⟨u, c, v ++ i, hu, hc, by simp⟩
  rcases h with ⟨_ | hn, hi⟩ | ⟨_ | hn⟩ | h | h | h | h
  · exact .inl hi
  · exact .inr (.inr (hqualified hn))
  · exact .inr (.inr ⟨[], '*', [], .nil, .inr (.inl rfl), rfl⟩)
  · exact .inr (.inr (hqualified hn))
  · obtain ⟨-⟩ := h
    exact .inr (.inr ⟨[], '#', _, .nil, .inr (.inr (.inl rfl)), rfl⟩)
  · exact .inr (.inl h)
  · obtain ⟨-, -, -, -, -⟩ := h
    exact .inr (.inr ⟨[], '[', _, .nil, .inr (.inr (.inr (.inl rfl))), rfl⟩)
  · obtain ⟨u, rfl⟩ := h.head
    exact .inr (.inr ⟨[], ':', u, .nil, .inr (.inr (.inr (.inr rfl))), rfl⟩)

/-- A simple selector that is an expression, with the blanks around it, is an identifier. -/
theorem NegationArg.ident_of_expression (hx : NegationArg x) (ha : Blanks a) (hb : Blanks b) (he : Expression e)
    (heq : a ++ x ++ y = b ++ e) : Ident x := by
  rcases hx.ident_or with hi | @⟨i, hi⟩ | ⟨u, c, v, hu, hc, rfl⟩
  · exact hi
  · -- a name does not begin with a digit
    have hpoint : DigitAtPoint (a ++ '.' :: (i ++ y)) := by
      have hall := he.digitAtPoint.after hb
      rw [← heq] at hall
      simpa using hall
    obtain ⟨d, w, hw, hd⟩ := hpoint.exists_digit ha
    obtain ⟨c, u, rfl, hc⟩ := hi.head
    obtain rfl : c = d := (List.cons.inj hw).1
    exact absurd hd hc.not_isDigit
  · have hscan : UpToQuote IsExpressionChar (a ++ u ++ c :: (v ++ y)) := by
      have hall := he.upToQuote.after (expression_of_inner hb.escaping)
      rw [← heq] at hall
      simpa using hall
    have hbefore : Escaping IsExpressionChar (a ++ u) := expression_of_inner (ha.escaping.append hu)
    have hstop := hc.not_isExpressionChar
    exact absurd hscan (UpToQuote.not_append (fun _ => IsExpressionChar.not_isQuote) hbefore hstop.1 hstop.2)

/-! ### Negations that are pseudos -/

/-- A negation is a pseudo exactly if its argument is an identifier. -/
theorem negation_and_pseudo_iff : Negation t ∧ Pseudo t ↔
    ∃ h a i b, NotOpening h ∧ Blanks a ∧ Ident i ∧ Blanks b ∧ t = h ++ a ++ i ++ b ++ [')'] := by
  constructor
  · intro h
    obtain ⟨hn, hp⟩ := h
    obtain @⟨h, a, x, b, hh, ha, hx, hb⟩ := hn
    refine ⟨h, a, x, b, hh, ha, ?_, hb, rfl⟩
    obtain ⟨j, hj, rfl⟩ := hh.ident
    have hcut : ¬ ('(' = '\\' ∨ IsNameInner '(') := by decide
    generalize ht : ':' :: (j ++ ['(']) ++ a ++ x ++ b ++ [')'] = t at hp
    have hsplit : [':'] ++ (j ++ '(' :: (a ++ x ++ b ++ [')'])) = t := by
      rw [← ht]
      simp
    rcases hp with @⟨c, i, hc, hi⟩ | @⟨c, f, hc, hf⟩
    · -- a name has no parenthesis in it
      rw [← List.append_nil i] at hsplit
      obtain rfl := colons_eq .one hc hj hi hsplit
      have hwhole : Escaping IsNameInner (j ++ '(' :: (a ++ x ++ b ++ [')'])) := by
        rw [List.append_cancel_left hsplit, List.append_nil]
        exact hi.escaping
      exact absurd (hj.escaping.allowed_of_append hwhole) hcut
    · obtain @⟨f, a', e, hf, ha', he⟩ := hf
      obtain rfl := colons_eq .one hc hj hf hsplit
      have hcall := List.append_cancel_left hsplit
      obtain rfl := hj.escaping.eq_of_cut hf.escaping hcut hcut hcall
      have harg : a ++ x ++ b = a' ++ e := List.append_cancel_right (List.cons.inj (List.append_cancel_left hcall)).2
      exact hx.ident_of_expression ha ha' he harg
  · intro h
    obtain ⟨h, a, i, b, hh, ha, hi, hb, rfl⟩ := h
    refine ⟨.mk hh ha (.typeSelector (.mk .absent hi)) hb, ?_⟩
    obtain ⟨j, hj, rfl⟩ := hh.ident
    have he : Expression (i ++ b) := (ExpressionTerm.ident hi).expression.append_blanks hb
    have hpseudo : Pseudo ([':'] ++ (j ++ '(' :: (a ++ (i ++ b) ++ [')']))) := .functional .one (.mk hj ha he)
    simpa using hpseudo

end Derivation

namespace Rule

/-- `NOT S* IDENT S* ')'` -/
def plainNegation : Pattern :=
  .concat [Lexeme.not, Lexeme.optionalBlanks, Lexeme.ident, Lexeme.optionalBlanks, .char ')']

theorem accepts_plainNegation {t : Text} :
    plainNegation.accepts t = true ↔ Derivation.Negation t ∧ Derivation.Pseudo t := by
  rw [Pattern.accepts_iff_matches (by decide +kernel), Derivation.negation_and_pseudo_iff]
  simp only [plainNegation, Pattern.concat, Pattern.matches_seq, Pattern.matches_char, Lexeme.matches_not,
    Lexeme.matches_optionalBlanks, Lexeme.matches_ident]
  constructor
  · intro h
    obtain ⟨h, _, hh, ⟨a, _, ha, ⟨i, _, hi, ⟨b, _, hb, rfl, rfl⟩, rfl⟩, rfl⟩, rfl⟩ := h
    exact ⟨h, a, i, b, hh, ha, hi, hb, by simp⟩
  · intro h
    obtain ⟨h, a, i, b, hh, ha, hi, hb, rfl⟩ := h
    exact ⟨h, _, hh, ⟨a, _, ha, ⟨i, _, hi, ⟨b, _, hb, rfl, rfl⟩, rfl⟩, rfl⟩, by simp⟩

end Rule

namespace Classification

variable {t : Text} {p q : Production} {tests : List Production}

/-- The productions that the classifier tries, in its order. -/
def tried : List Production :=
  order.map (·.1) ++ [.pseudo]

/-- The category after the first of the given productions that accepts the text. -/
def categoryBy? (tests : List Production) (t : Text) : Option Category :=
  (tests.find? (·.accepts t)).bind (Token.categoryAs t)

/-- The classification with the productions tried in the given order. -/
def ofTextBy (tests : List Production) (t : Text) : Except SelectorError Classification :=
  if t.isEmpty then .error (.noMatch t)
  else
    match categoryBy? tests t with
    | some category => .ok ⟨category, qualifierOf t category⟩
    | none => .error (.noMatch t)

theorem categoryBy?_eq (hs : Token.IsOrder tests) : categoryBy? tests t = categoryOf? t := by
  unfold categoryBy?
  cases hfind : tests.find? (·.accepts t) with
  | some p => exact (Token.categoryOf?_of_isKind (hs.find?_eq_some_iff.1 hfind)).symm
  | none =>
    cases hcategory : categoryOf? t with
    | none => rfl
    | some category =>
      obtain ⟨p, hp⟩ := Token.exists_isKind (Token.accepted_of_categoryOf? hcategory)
      rw [hs.find?_eq_some_iff.2 hp] at hfind
      cases hfind

/-- A text that two productions accept is a negation and a pseudo. -/
theorem negation_and_pseudo_of_accepts (hp : p ∈ Token.productions) (hq : q ∈ Token.productions)
    (hpt : p.accepts t = true) (hqt : q.accepts t = true) (hne : p ≠ q) :
    p = .negation ∧ q = .pseudo ∨ p = .pseudo ∧ q = .negation := by
  rw [Production.accepts_iff_matches, Production.matches_pattern] at hpt hqt
  by_cases hn : Derivation.Negation t
  · have hnegation : Token.IsKind .negation t := Token.isKind_of_ne_pseudo (by decide) (by decide) hn
    have hone {r : Production} (hr : r ∈ Token.productions) (hrt : r.Derives t) : r = .pseudo ∨ r = .negation := by
      by_cases hpseudo : r = .pseudo
      · exact .inl hpseudo
      · exact .inr ((Token.isKind_of_ne_pseudo hr hpseudo hrt).unique hnegation)
    rcases hone hp hpt with rfl | rfl <;> rcases hone hq hqt with rfl | rfl
    · exact absurd rfl hne
    · exact .inr ⟨rfl, rfl⟩
    · exact .inl ⟨rfl, rfl⟩
    · exact absurd rfl hne
  · exact absurd (Token.IsKind.unique ⟨hp, hpt, fun _ => hn⟩ ⟨hq, hqt, fun _ => hn⟩) hne

/-- No text is accepted by two of the productions, but for the negations of an identifier, which are pseudos as well.
So the classification is the same in every order that has negations before pseudos. -/
theorem categories_partition (t : Text) :
    (∀ p ∈ tried, ∀ q ∈ tried, p.accepts t = true → q.accepts t = true → p ≠ q →
      p = .negation ∧ q = .pseudo ∨ p = .pseudo ∧ q = .negation) ∧
    (Production.negation.accepts t = true ∧ Production.pseudo.accepts t = true ↔
      Rule.plainNegation.accepts t = true) ∧
    ∀ tests, tests.Perm tried → [.negation, .pseudo].Sublist tests → ofTextBy tests t = ofText t := by
  have htried : tried.Perm Token.productions := by decide
  refine ⟨?_, ?_, ?_⟩
  · intro p hp q hq hpt hqt hne
    exact negation_and_pseudo_of_accepts (htried.mem_iff.1 hp) (htried.mem_iff.1 hq) hpt hqt hne
  · simp only [Production.accepts_iff_matches, Production.matches_pattern, Rule.accepts_plainNegation]
    rfl
  · intro tests hperm hbefore
    rw [ofTextBy, categoryBy?_eq ⟨hperm.trans htried, hbefore⟩]
    rfl

end Classification

end SelectorSyntax
