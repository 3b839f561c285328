import SelectorSyntax.Proofs.Token.Combinator

/-!
# Selectors joined by a combinator

Two selectors with a symbol between them have the elements of the first one, and then those of the second one, the
first of which the symbol leads (`Token.elements_joined`).  Nothing of the first selector is read on over the symbol
(`Token.Cut.joined`): a simple selector ends before every symbol, and the last token of a selector is a simple selector.
The blanks after the symbol belong to it.
-/

namespace SelectorSyntax.Token

open SelectorSyntax.Derivation

variable {c : Char} {p : Production} {a b left r t w x : Text} {ps qs : List (Production × Text)}

/-! ### Tokens before a symbol -/

/-- A first token stays the first one before a symbol, if it is no combinator that might go on up to there. -/
theorem IsFirst.before_symbol (hx : IsFirst (x ++ t) p x) (ht : Balanced t)
    (hsimple : p = .combinator → ∃ d ∈ t, ¬ IsCombinatorChar d) (hc : c = '+' ∨ c = '>' ∨ c = '~') (r : Text) :
    IsFirst (x ++ (t ++ c :: r)) p x := by
  refine ⟨longest_of_eq_nil hx.longest.holds fun v hv hprefix => ?_, hx.earliest⟩
  -- it goes on over the symbol, because otherwise the text without the symbol would begin with it
  by_contra hne
  have hwithin : ¬ v <+: t := fun hvt => hne (hx.longest.eq_nil hv hvt)
  obtain ⟨z, rfl⟩ : ∃ z, v = t ++ c :: z := by
    rcases prefix_append_cases hprefix with hvt | ⟨e, rfl, he⟩
    · exact absurd hvt hwithin
    · cases e with
      | nil => exact absurd (by simp) hwithin
      | cons d z =>
        obtain rfl := (List.cons_prefix_cons.1 he).1
        exact ⟨z, rfl⟩
  obtain ⟨d, x, rfl⟩ := List.exists_cons_of_ne_nil hx.longest.holds.ne_nil
  by_cases hp : p = .combinator
  · subst hp
    obtain ⟨e, he, hnot⟩ := hsimple rfl
    have hd : IsCombinatorChar d := Combinator.forall_mem hx.isKind.derives d (by simp)
    exact hnot ((hv.of_combinator_head hd).forall_mem e (by simp [he]))
  · have hbalanced : Balanced (d :: (x ++ t)) := hx.longest.holds.balanced.append ht
    have hname := Accepted.inName (by simpa using hv) (hx.isKind.not_isCombinatorChar hp) hbalanced
      (isCombinatorChar_of_symbol hc)
    exact Rule.not_isBlank_of_symbol hc hname.1

/-- Where the last piece is no combinator, the text has a character that no combinator has. -/
theorem Cut.exists_simple_char (h : Cut t ps left) (hne : ps ≠ []) (hlast : ∀ l ∈ ps.getLast?, l.1 ≠ .combinator) :
    ∃ d ∈ t, ¬ IsCombinatorChar d := by
  have hmem := List.getLast_mem hne
  have hkind := h.isKind _ hmem
  obtain ⟨d, u, heq⟩ := List.exists_cons_of_ne_nil hkind.ne_nil
  refine ⟨d, ?_, ?_⟩
  · rw [h.text_eq, List.mem_append, List.mem_flatMap]
    exact .inl ⟨_, hmem, by simp [heq]⟩
  · rw [heq] at hkind
    exact hkind.not_isCombinatorChar (hlast _ (List.getLast?_eq_some_getLast hne))

/-- The pieces of a text that does not end with a combinator, and then those from the symbol on. -/
theorem Cut.joined (h : Cut t ps left) (hleft : left = []) (hlast : ∀ l ∈ ps.getLast?, l.1 ≠ .combinator)
    (hc : c = '+' ∨ c = '>' ∨ c = '~') (hr : Cut (c :: r) qs []) : Cut (t ++ c :: r) (ps ++ qs) [] := by
  induction h with
  | stop _ =>
    subst hleft
    exact hr
  | @step p x t left ps hx hcut ih =>
    subst hleft
    have ht : Balanced t := by
      rw [hcut.text_eq, List.append_nil]
      exact hcut.balanced
    have hrest : ∀ l ∈ ps.getLast?, l.1 ≠ .combinator := by
      cases ps with
      | nil => exact fun _ hl => nomatch hl
      | cons q ps => simpa using hlast
    have hsimple : p = .combinator → ∃ d ∈ t, ¬ IsCombinatorChar d := by
      intro hp
      refine hcut.exists_simple_char ?_ hrest
      rintro rfl
      exact hlast (p, x) (by simp) hp
    rw [List.append_assoc]
    exact .step (hx.before_symbol ht hsimple hc r) (ih rfl hrest)

/-! ### Joined selectors -/

/-- The combinator in front of a selector is a token, and then come the tokens of the selector. -/
theorem Cut.led (hk : Combinator x) (ht : Selector t) (h : Cut t ps left) :
    Cut (x ++ t) ((.combinator, x) :: ps) left := by
  obtain ⟨y, hy⟩ := exists_longest (Accepted.of_combinator hk) (List.prefix_append x t)
  obtain rfl := eq_of_combinator hk ht hy
  have hkind : IsKind .combinator y := isKind_of_ne_pseudo (by decide) (by decide) hk
  exact .step ⟨hy, find?_productions_eq_some_iff.2 hkind⟩ h

/-- The pieces of a selector.  The first and the last one are simple selectors. -/
theorem exists_cut_of_selector (h : Selector t) : ∃ ps s tokens, Cut t ps [] ∧ ps.map ofPiece = s :: tokens ∧
    s.isCombinator = false ∧ ∀ l ∈ ps.getLast?, l.1 ≠ .combinator := by
  obtain ⟨ps, left, hcut⟩ := exists_cut t
  obtain ⟨rfl, hplace⟩ := hcut.inOrder.2 h
  obtain ⟨s, tokens, heq, hs, htokens⟩ := hplace 0
  have hmap : (s :: tokens).map (fun s => ofPiece (s.production, s.raw)) = ps.map ofPiece :=
    heq ▸ map_ofPiece_place 0 ps
  refine ⟨ps, _, _, hcut, hmap.symm, hs, fun l hl hcombinator => ?_⟩
  have hlast : (ps.map ofPiece).getLast? = some (ofPiece l) := by
    rw [List.getLast?_map, Option.mem_def.1 hl, Option.map_some]
  rw [← hmap, List.getLast?_map] at hlast
  obtain ⟨l', hl', hpiece⟩ := Option.map_eq_some_iff.1 hlast
  have hsimple : l'.isCombinator = false := (InOrder.simple hs htokens).isCombinator_of_getLast? hl'
  have hproduction : l'.production = .combinator := by rw [← hcombinator]; exact congrArg Token.production hpiece
  simp [isCombinator, hproduction] at hsimple

theorem text_of_symbol (hc : c = '+' ∨ c = '>' ∨ c = '~') (hw : Blanks w) :
    (ofPiece (.combinator, c :: w)).text = [c] := by
  have hblank : ¬ Text.isBlank c := Rule.not_isBlank_of_symbol hc
  obtain ⟨d, htext, ⟨-, hblanks⟩ | ⟨-, e, b, he, -, heq⟩⟩ := text_of_combinator (.symbol (a := []) (by decide) hc hw)
  · exact absurd (hblanks c (by simp)) hblank
  · cases e with
    | nil =>
      obtain rfl := (List.cons.inj heq).1
      exact htext
    | cons f e =>
      obtain rfl := (List.cons.inj heq).1
      exact absurd (he c (by simp)) hblank

/-- Two selectors with a symbol between them, and any blanks after it, have the elements of the first one and then those
of the second one, with the symbol in front of the first of these. -/
theorem elements_joined (ha : Production.selector.accepts a = true) (hb : Production.selector.accepts b = true)
    (hc : c = '+' ∨ c = '>' ∨ c = '~') (hw : Blanks w) :
    ∃ before first later, elements a = .ok before ∧ elements b = .ok (first :: later) ∧
      elements (a ++ c :: (w ++ b)) = .ok (before ++ ([c] :: first) :: later) := by
  have ha : Selector a := (Production.accepts_iff_derives .selector _).1 ha
  have hb : Selector b := (Production.accepts_iff_derives .selector _).1 hb
  obtain ⟨ps, -, -, hps, -, -, hlast⟩ := exists_cut_of_selector ha
  obtain ⟨qs, s, tokens, hqs, hmap, hs, -⟩ := exists_cut_of_selector hb
  have hcombinator : Combinator (c :: w) := .symbol (a := []) (by decide) hc hw
  have hcut : Cut (a ++ c :: (w ++ b)) _ [] := hps.joined rfl hlast hc (hqs.led hcombinator hb)
  obtain ⟨first, later, hfirst, hled⟩ := elementsOf_cons hs (ofPiece (.combinator, c :: w)) tokens
  refine ⟨_, first.map text, later.map (·.map text), elements_of_cut hps, ?_, ?_⟩
  · rw [elements_of_cut hqs, hmap, hfirst]
    rfl
  · rw [elements_of_cut hcut, List.map_append, List.map_cons, elementsOf_append rfl, hmap, hled, List.map_append]
    rw [List.map_cons, List.map_cons, text_of_symbol hc hw]

/-- The blank before the symbol belongs to an escape, and the symbol in an argument joins nothing. -/
theorem elements_joined_of_escapes :
    let a := "p:is(\">\") .a\\31 ".toList
    let b := "\\7e .x[c] + d".toList
    let w := "\r\n\t".toList
    Production.selector.accepts a = true ∧ Production.selector.accepts b = true ∧ Blanks w ∧
      ∃ before first later, elements a = .ok before ∧ elements b = .ok (first :: later) ∧
        elements (a ++ '>' :: (w ++ b)) = .ok (before ++ (['>'] :: first) :: later) := by
  intro a b w
  have ha : Production.selector.accepts a = true := by decide +kernel
  have hb : Production.selector.accepts b = true := by decide +kernel
  have hw : Blanks w := by decide
  exact ⟨ha, hb, hw, elements_joined ha hb (by decide) hw⟩

end SelectorSyntax.Token
