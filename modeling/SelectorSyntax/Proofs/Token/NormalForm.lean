import SelectorSyntax.Proofs.Token.Combinator

/-!
# The normal form of a selector

The texts of the tokens of a selector, put together, are its normal form: combinators are written without the blanks
around their symbols, and as a single blank if they have none.  Cut into tokens again it gives the same texts, and each
is of the same production as before (`Token.texts_flatten`).

What the blanks kept apart stays apart.  A simple selector that could go on in the normal form could go on in the
selector itself, because only a blank of an escape is both part of a name and of a combinator, and every blank can end
the escape (`Token.IsFirst.simple_normal`).  Two combinators in a row both have a symbol, so they are no single one
(`Token.IsFirst.combinator_normal`).
-/

namespace SelectorSyntax

open SelectorSyntax.Derivation

namespace Derivation

variable {c d : Char} {t x y : Text}

theorem Combinator.of_blanks (hx : Blanks x) (h : Combinator y) : Combinator (x ++ y) := by
  rcases h with @⟨a, b, c, ha, hc, hb⟩ | ⟨h, hne⟩
  · rw [← List.append_assoc]
    exact .symbol (List.forall_mem_append.2 ⟨hx, ha⟩) hc hb
  · exact .blanks (List.forall_mem_append.2 ⟨hx, h⟩) (List.append_ne_nil_of_right_ne_nil x hne)

theorem Combinator.not_two_symbols (hc : c = '+' ∨ c = '>' ∨ c = '~') (hd : d = '+' ∨ d = '>' ∨ d = '~') :
    ¬ Combinator (c :: d :: t) := by
  intro h
  generalize ht : c :: d :: t = x at h
  rcases h with @⟨a, b, e, ha, -, hb⟩ | ⟨h, -⟩
  · cases a with
    | nil =>
      obtain rfl := (List.cons.inj ht).2
      exact Rule.not_isBlank_of_symbol hd (hb d (by simp))
    | cons e a =>
      obtain rfl := (List.cons.inj ht).1
      exact Rule.not_isBlank_of_symbol hc (ha c (by simp))
  · exact Rule.not_isBlank_of_symbol hc (h c (by simp [← ht]))

end Derivation

namespace Token

variable {p : Production} {d : Char} {left t u v x y : Text} {ps : List (Production × Text)}

/-! ### What the normal form begins with -/

/-- A beginning of the normal form is one of the text, or it goes on into a combinator.  A blank that it goes on with
stands for one of the text, which can end an escape as well. -/
theorem Cut.prefix_cases (h : Cut t ps left) (hv : v <+: (ps.map ofPiece).flatMap text) : v <+: t ∨
    ∃ u c z, v = u ++ c :: z ∧ Balanced u ∧ IsCombinatorChar c ∧
      (Text.isBlank c → ∃ b, EndsAs b c ∧ u ++ [b] <+: t) := by
  induction h generalizing v with
  | stop _ => exact .inl (List.prefix_nil.1 hv ▸ List.nil_prefix)
  | @step p x t left ps hx hcut ih =>
    rw [List.map_cons, List.flatMap_cons] at hv
    by_cases hp : p = .combinator
    · subst hp
      obtain ⟨c, htext, hc⟩ := text_of_combinator hx.isKind.derives
      rw [htext] at hv
      cases v with
      | nil => exact .inl List.nil_prefix
      | cons d v =>
        obtain rfl := (List.cons_prefix_cons.1 hv).1
        refine .inr ⟨[], d, v, rfl, .nil, ?_, fun hblank => ?_⟩
        · rcases hc with ⟨rfl, -⟩ | ⟨hc, -⟩
          · decide
          · exact isCombinatorChar_of_symbol hc
        · rcases hc with ⟨rfl, hx_blanks⟩ | ⟨hc, -⟩
          · obtain ⟨b, x, rfl⟩ := List.exists_cons_of_ne_nil hx.longest.holds.ne_nil
            exact ⟨b, .inr ⟨rfl, hx_blanks b (by simp)⟩, by simp⟩
          · exact absurd hblank (Rule.not_isBlank_of_symbol hc)
    · rw [text_of_simple hp] at hv
      rcases prefix_append_cases hv with hvx | ⟨w, rfl, hw⟩
      · exact .inl (hvx.trans (List.prefix_append ..))
      · rcases ih hw with hwt | ⟨u, c, z, rfl, hu, hc, hblank⟩
        · exact .inl ((List.prefix_append_right_inj x).2 hwt)
        · refine .inr ⟨x ++ u, c, z, by simp, hx.longest.holds.balanced.append hu, hc, fun h => ?_⟩
          obtain ⟨b, hb, hut⟩ := hblank h
          refine ⟨b, hb, ?_⟩
          rw [List.append_assoc]
          exact (List.prefix_append_right_inj x).2 hut

/-- Where the normal form begins with a character of combinators, a combinator begins the text. -/
theorem Cut.exists_combinator (h : Cut t ps left) (hd : IsCombinatorChar d)
    (hv : d :: v <+: (ps.map ofPiece).flatMap text) :
    ∃ x s, t = x ++ s ∧ Combinator x ∧ (ofPiece (.combinator, x)).text = [d] := by
  cases h with
  | stop _ => simp at hv
  | @step p x t left ps hx _ =>
    rw [List.map_cons, List.flatMap_cons] at hv
    by_cases hp : p = .combinator
    · subst hp
      obtain ⟨c, htext, -⟩ := text_of_combinator hx.isKind.derives
      rw [htext] at hv
      obtain rfl := (List.cons_prefix_cons.1 hv).1
      exact ⟨x, t, rfl, hx.isKind.derives, htext⟩
    · rw [text_of_simple hp] at hv
      obtain ⟨e, x, rfl⟩ := List.exists_cons_of_ne_nil hx.longest.holds.ne_nil
      obtain rfl := (List.cons_prefix_cons.1 hv).1
      exact absurd hd (hx.isKind.not_isCombinatorChar hp)

/-! ### First tokens of the normal form -/

/-- A simple selector is read as far in the normal form as in the text. -/
theorem IsFirst.simple_normal (hx : IsFirst (x ++ t) p x) (hp : p ≠ .combinator) (h : Cut t ps left) :
    IsFirst (x ++ (ps.map ofPiece).flatMap text) p x := by
  refine ⟨longest_of_eq_nil hx.longest.holds fun v hv hprefix => ?_, hx.earliest⟩
  rcases h.prefix_cases hprefix with hvt | ⟨u, c, z, rfl, hu, hc, hblank⟩
  · exact hx.longest.eq_nil hv hvt
  · -- one that ends with a blank of the text would begin the text
    obtain ⟨d, x', rfl⟩ := List.exists_cons_of_ne_nil hx.longest.holds.ne_nil
    have hd : ¬ IsCombinatorChar d := hx.isKind.not_isCombinatorChar hp
    have hbalanced : Balanced (d :: (x' ++ u)) := hx.longest.holds.balanced.append hu
    have hname : InName (d :: (x' ++ u)) c := Accepted.inName (by simpa using hv) hd hbalanced hc
    obtain ⟨b, hb, hut⟩ := hblank hname.1
    have hlonger : Accepted (d :: x' ++ (u ++ [b])) := by simpa using hname.2 b hb
    simpa using hx.longest.eq_nil hlonger hut

/-- Two combinators in a row are no single one, so each of them has a symbol. -/
theorem IsFirst.not_combinator_append (hx : IsFirst (x ++ (y ++ t)) .combinator x) (hne : y ≠ []) :
    ¬ Combinator (x ++ y) := by
  intro h
  exact hne (hx.longest.eq_nil (.of_combinator h) (List.prefix_append ..))

/-- A combinator is read as far in the normal form as in the text. -/
theorem IsFirst.combinator_normal (hx : IsFirst (x ++ t) .combinator x) (h : Cut t ps left) :
    IsFirst ((ofPiece (.combinator, x)).text ++ (ps.map ofPiece).flatMap text) .combinator
      (ofPiece (.combinator, x)).text := by
  obtain ⟨c, htext, hc⟩ := text_of_combinator hx.isKind.derives
  have hkind : IsKind .combinator [c] := htext ▸ @isKind_text (ofPiece (.combinator, x)) hx.isKind
  rw [htext]
  refine ⟨longest_of_eq_nil ⟨_, hkind.mem, hkind.accepts⟩ fun v hv hprefix => ?_,
    find?_productions_eq_some_iff.2 hkind⟩
  cases v with
  | nil => rfl
  | cons d v =>
    exfalso
    have hv : Combinator (c :: d :: v) := hv.of_combinator_head (hkind.derives.forall_mem c (by simp))
    -- it would go on with the next combinator
    obtain ⟨x', s, rfl, hx', htext'⟩ := h.exists_combinator (hv.forall_mem d (by simp)) hprefix
    obtain ⟨d', hd', hd⟩ := text_of_combinator hx'
    obtain rfl : d = d' := by simpa [htext'] using hd'
    have hnot := hx.not_combinator_append hx'.ne_nil
    rcases hc with ⟨-, hx_blanks⟩ | ⟨hc, a, b, ha, hb, rfl⟩
    · exact hnot (hx'.of_blanks hx_blanks)
    · rcases hd with ⟨-, hx'_blanks⟩ | ⟨hd, -⟩
      · refine hnot ?_
        rw [List.append_assoc, List.cons_append]
        exact .symbol ha hc (List.forall_mem_append.2 ⟨hb, hx'_blanks⟩)
      · exact Combinator.not_two_symbols hc hd hv

/-- The normal form has the pieces of the text, each written as it is there. -/
theorem Cut.normal (h : Cut t ps left) :
    Cut ((ps.map ofPiece).flatMap text) (ps.map fun piece => (piece.1, (ofPiece piece).text)) [] := by
  induction h with
  | stop _ => exact .stop fun x hx hnil => hx.ne_nil (List.prefix_nil.1 hnil)
  | @step p x t left ps hx hcut ih =>
    refine .step ?_ ih
    by_cases hp : p = .combinator
    · subst hp
      exact hx.combinator_normal hcut
    · rw [text_of_simple hp]
      exact hx.simple_normal hp hcut

/-! ### The normal form -/

/-- What is written for a piece is written as it is. -/
theorem text_of_text (h : IsKind p x) : (ofPiece (p, (ofPiece (p, x)).text)).text = (ofPiece (p, x)).text := by
  by_cases hp : p = .combinator
  · subst hp
    obtain ⟨c, htext, hc⟩ := text_of_combinator h.derives
    rw [htext]
    rcases hc with ⟨rfl, -⟩ | ⟨rfl | rfl | rfl, -⟩ <;> decide
  · simp only [text_of_simple hp]

theorem map_production_place (offset : Nat) (ps : List (Production × Text)) :
    (place offset ps).map production = ps.map (·.1) := by
  induction ps generalizing offset with
  | nil => rfl
  | cons piece ps ih => rw [place, List.map_cons, ih, List.map_cons]

/-- The texts of the tokens of a selector, put together, are cut into tokens of the same texts, and these are of the
same productions, one by one. -/
theorem texts_flatten {l : List Text} (h : texts t = .ok l) :
    texts l.flatten = .ok l ∧ ∃ tokens tokens', ofText t = .ok tokens ∧ ofText l.flatten = .ok tokens' ∧
      tokens'.map production = tokens.map production := by
  cases htokens : ofText t with
  | error e => simp [texts, htokens, Except.map] at h
  | ok tokens =>
    obtain ⟨ps, hcut, rfl⟩ := ofText_eq_ok_iff.1 htokens
    obtain rfl : (ps.map ofPiece).map text = l := Except.ok.inj ((texts_of_cut hcut).symm.trans h)
    have hnormal := hcut.normal
    have htexts : ((ps.map fun piece => (piece.1, (ofPiece piece).text)).map ofPiece).map text =
        (ps.map ofPiece).map text := by
      simp only [List.map_map]
      exact List.map_congr_left fun piece hmem => text_of_text (hcut.isKind piece hmem)
    rw [← List.flatMap_def]
    refine ⟨by rw [texts_of_cut hnormal, htexts], _, _, rfl, ofText_eq_ok_iff.2 ⟨_, hnormal, rfl⟩, ?_⟩
    simp only [map_production_place, List.map_map]
    rfl

/-- The line end belongs to the escape, and the blanks after it to the first of two combinators. -/
theorem texts_flatten_of_escapes :
    let t := ".a\\31\r\n \t> \n>b\\66 c\t ns|\\2a\t\n~*".toList
    let l := [".a\\31\r\n".toList, ['>'], ['>'], "b\\66 c".toList, [' '], "ns|\\2a\t".toList, ['~'], ['*']]
    texts t = .ok l ∧ texts l.flatten = .ok l ∧ ∃ tokens tokens', ofText t = .ok tokens ∧
      ofText l.flatten = .ok tokens' ∧ tokens'.map production = tokens.map production := by
  intro t l
  have h : texts t = .ok l := by decide +kernel
  exact ⟨h, texts_flatten h⟩

end Token

end SelectorSyntax
