import SelectorSyntax.Group
import SelectorSyntax.Proofs.Attribute.Composition
import SelectorSyntax.Proofs.Pattern.Case
import SelectorSyntax.Proofs.Pseudo.Table

/-!
# Case does not matter

From the patterns to the judgement, everything that asks the grammar alone is the same for a text and for the text in
lower case.  The cuts fall at characters that are no letters, so they fall at the same places; the productions and the
tables of names ignore case, so the same ones accept; and the scanner for commas looks at no letters.  Hence two texts
that are the same in lower case are told apart by none of them (`eq_of_lower`).
-/

namespace SelectorSyntax

open SelectorSyntax.Derivation

/-! ### Tokens -/

/-- The error about the text in lower case. -/
def SelectorError.lower : SelectorError → SelectorError
  | noMatch selector => noMatch (Text.lower selector)
  | wrongCategory wanted found selector => wrongCategory wanted found (Text.lower selector)
  | forbiddenNesting inner category => forbiddenNesting (Text.lower inner) category
  | unexpectedInput offset remainder => unexpectedInput offset (Text.lower remainder)

theorem SelectorError.lower_lower (e : SelectorError) : e.lower.lower = e.lower := by
  cases e <;> simp [lower, Text.lower_lower]

namespace Token

theorem first?_lower (t : Text) : first? (Text.lower t) = first? t := by
  simp only [first?, Production.leadLength?_lower]

/-- The pieces end at the same places. -/
theorem pieces_lower {α : Type} {f : Text → Option (α × Nat)} (hf : ∀ t, f (Text.lower t) = f t) (t : Text) :
    pieces f (Text.lower t) = Prod.map (List.map (Prod.map id Text.lower)) Text.lower (pieces f t) := by
  fun_induction pieces f t with
  | case1 =>
    rw [Text.lower, List.map_nil, pieces]
    rfl
  | case2 c t a n hfirst more left hpieces ih =>
    have hdrop : (Text.lower t).drop n = Text.lower (t.drop n) := List.map_drop.symm
    have htake : (Text.lower t).take n = Text.lower (t.take n) := List.map_take.symm
    rw [← hf, Text.lower_cons] at hfirst
    simp only [Text.lower_cons, pieces, hfirst, hdrop, htake, ih, hpieces]
    rfl
  | case3 c t hfirst =>
    have hlower : f (c.toLower :: Text.lower t) = f (c :: t) := hf (c :: t)
    rw [Text.lower_cons, pieces, hlower]
    split
    · rename_i hsome
      exact absurd hsome (hfirst _ _)
    · rfl

/-- The token of the text in lower case. -/
def lower (t : Token) : Token :=
  { t with raw := Text.lower t.raw }

theorem place_lower (offset : Nat) (ps : List (Production × Text)) :
    place offset (ps.map (Prod.map id Text.lower)) = (place offset ps).map lower := by
  induction ps generalizing offset with
  | nil => rfl
  | cons p ps ih =>
    obtain ⟨production, raw⟩ := p
    rw [List.map_cons, Prod.map_apply, place, place, Text.byteLength_lower, ih]
    rfl

theorem ofText_lower (t : Text) :
    ofText (Text.lower t) = ((ofText t).map (List.map lower)).mapError SelectorError.lower := by
  rw [ofText, ofText, pieces_lower first?_lower]
  obtain ⟨all, left⟩ := pieces first? t
  have hlength : Text.byteLength ((all.map (Prod.map id Text.lower)).flatMap (·.2)) =
      Text.byteLength (all.flatMap (·.2)) := by
    rw [← Text.byteLength_lower (all.flatMap (·.2)), Text.lower, List.map_flatMap, List.flatMap_map]
    rfl
  cases left with
  | nil => simp [Except.map, Except.mapError, place_lower, Text.lower]
  | cons c left => simp [Except.map, Except.mapError, SelectorError.lower, hlength]

/-- The production, the offset and the number of bytes of a token. -/
def outline (t : Token) : Production × Nat × Nat :=
  (t.production, t.offset, Text.byteLength t.raw)

theorem outline_lower (t : Token) : t.lower.outline = t.outline := by
  simp [outline, lower, Text.byteLength_lower]

/-- The outlines of the tokens of a text, or the error about the text in lower case. -/
def outlines (t : Text) : Except SelectorError (List (Production × Nat × Nat)) :=
  ((ofText t).map (List.map outline)).mapError SelectorError.lower

theorem outlines_lower (t : Text) : outlines (Text.lower t) = outlines t := by
  rw [outlines, outlines, ofText_lower]
  cases ofText t with
  | error e => exact congrArg Except.error e.lower_lower
  | ok tokens => simp [Except.map, Except.mapError, Function.comp_def, outline_lower]

end Token

/-! ### Groups -/

namespace Group

namespace Scan

/-- An open quote is a quote. -/
def Quoting (s : Scan) : Prop :=
  ∀ q ∈ s.quote, IsQuote q

variable {s : Scan}

theorem Quoting.next (h : s.Quoting) (c : Char) : (s.next c).Quoting := by
  unfold Scan.next
  split
  · exact h
  · split
    · exact h
    · split
      · split
        · simp [Quoting]
        · exact h
      · split
        · rename_i hquote
          intro q hq
          simp only [Option.mem_def, Option.some.injEq] at hq
          subst hq
          simpa [IsQuote] using hquote
        · split
          · exact h
          · split
            · exact h
            · exact h

/-- The scanner looks for no letters, though one may be escaped. -/
theorem next_of_isLetter {c : Char} (h : s.Quoting) (hc : IsLetter c) : s.next c = { s with escaped := false } := by
  have hne {d : Char} (hd : ¬ IsLetter d) : c ≠ d := fun heq => hd (heq ▸ hc)
  have hbackslash : c ≠ '\\' := hne (by decide)
  obtain ⟨_ | _, _ | q, depth⟩ := s
  · have hmarkers : c ≠ '"' ∧ c ≠ '\'' ∧ c ≠ '(' ∧ c ≠ '[' ∧ c ≠ ')' ∧ c ≠ ']' := by
      refine ⟨?_, ?_, ?_, ?_, ?_, ?_⟩ <;> exact hne (by decide)
    simp [Scan.next, hbackslash, hmarkers]
  · have hquote : c ≠ q := by
      refine hne ?_
      rcases h q rfl with rfl | rfl <;> decide
    simp [Scan.next, hbackslash, hquote]
  · rfl
  · rfl

theorem next_toLower (h : s.Quoting) (c : Char) : s.next c.toLower = s.next c := by
  rcases Text.toLower_eq_self_or_isLetter c with heq | ⟨hc, hlower⟩
  · rw [heq]
  · rw [next_of_isLetter h hc, next_of_isLetter h hlower]

end Scan

theorem pieces_lower {s : Scan} (h : s.Quoting) (t : Text) : pieces s (Text.lower t) = (pieces s t).map Text.lower := by
  induction t generalizing s with
  | nil => rfl
  | cons c t ih =>
    have hcomma : c.toLower = ',' ↔ c = ',' := Text.toLower_eq_iff (by decide)
    rw [Text.lower_cons, pieces, pieces, Scan.next_toLower h, ih h, ih (h.next c)]
    simp only [hcomma]
    split
    · rfl
    · cases pieces (s.next c) t <;> rfl

theorem sequences_lower (t : Text) : sequences (Text.lower t) = (sequences t).map Text.lower := by
  rw [sequences, sequences, Text.isEmpty_lower]
  split
  · rfl
  · rw [pieces_lower (by simp [Scan.Quoting, Scan.start]), List.map_map, List.map_map]
    exact List.map_congr_left fun piece _ => Text.trim_lower piece

end Group

/-! ### Pseudos -/

namespace Pseudo

/-- Two colons, one colon, or none. -/
theorem colons_cases (t : Text) :
    (∃ u, t = ':' :: ':' :: u) ∨ (∃ name, t = ':' :: name ∧ ∀ u, name ≠ ':' :: u) ∨ ∀ u, t ≠ ':' :: u := by
  by_cases hone : ∃ name, t = ':' :: name
  · obtain ⟨name, rfl⟩ := hone
    by_cases htwo : ∃ u, name = ':' :: u
    · obtain ⟨u, rfl⟩ := htwo
      exact .inl ⟨u, rfl⟩
    · exact .inr (.inl ⟨name, rfl, not_exists.1 htwo⟩)
  · exact .inr (.inr (not_exists.1 hone))

theorem lower_ne_colon {t : Text} (h : ∀ u, t ≠ ':' :: u) (u : Text) : Text.lower t ≠ ':' :: u := by
  intro heq
  obtain ⟨v, hv, -⟩ := Text.eq_cons_of_lower (by decide) heq
  exact h v hv

theorem not_pseudo_form {t : Text} (h : ∀ u, t ≠ ':' :: u) : hasElementForm t = false ∧ isValidClass t = false := by
  constructor
  · unfold hasElementForm
    split <;> simp_all
  · unfold isValidClass
    split <;> simp_all

theorem hasElementForm_lower (t : Text) : hasElementForm (Text.lower t) = hasElementForm t := by
  rcases colons_cases t with ⟨u, rfl⟩ | ⟨name, rfl, hname⟩ | hnone
  · rfl
  · change hasElementForm (':' :: Text.lower name) = _
    rw [hasElementForm_cons hname, hasElementForm_cons (lower_ne_colon hname), Text.isListed_lower]
  · rw [(not_pseudo_form hnone).1, (not_pseudo_form (lower_ne_colon hnone)).1]

theorem acceptsArgument_lower (whole name argument : Text) :
    acceptsArgument (Text.lower whole) (Text.lower name) (Text.lower argument) =
      acceptsArgument whole name argument := by
  simp only [acceptsArgument, Text.sameIgnoringCase_lower, Text.isListed_lower, Production.accepts_lower]

theorem isValidClass_lower (t : Text) : isValidClass (Text.lower t) = isValidClass t := by
  rcases colons_cases t with ⟨u, rfl⟩ | ⟨name, rfl, hname⟩ | hnone
  · rfl
  · change isValidClass (':' :: Text.lower name) = _
    rw [isValidClass, isValidClass, Text.cutAt?_lower (by decide)]
    · cases Text.cutAt? '(' name with
      | none =>
        have hvendor := Production.vendorPseudo.accepts_lower (':' :: name)
        exact congrArg₂ (· || ·) (Text.isListed_lower simpleClasses name) hvendor
      | some cut =>
        obtain ⟨function, rest⟩ := cut
        simp only [Option.map_some, Prod.map_apply, Text.dropEnd?_lower (show ¬ IsLetter ')' by decide)]
        cases Text.dropEnd? ')' rest with
        | none => rfl
        | some argument => exact acceptsArgument_lower (':' :: name) function argument
    · exact hname
    · exact lower_ne_colon hname
  · rw [(not_pseudo_form hnone).2, (not_pseudo_form (lower_ne_colon hnone)).2]

theorem isValidElement_lower (t : Text) : isValidElement (Text.lower t) = isValidElement t := by
  simp only [isValidElement, Text.isListed_lower, Production.accepts_lower]

theorem argumentOf?_lower (t : Text) : argumentOf? (Text.lower t) = (argumentOf? t).map Text.lower := by
  rw [argumentOf?, argumentOf?, Text.cutAt?_lower (by decide)]
  cases Text.cutAt? '(' t with
  | none => rfl
  | some cut => exact Text.dropEnd?_lower (by decide) cut.2

end Pseudo

theorem Negation.innerText?_lower (t : Text) : innerText? (Text.lower t) = (innerText? t).map Text.lower := by
  rw [innerText?, innerText?, Pseudo.argumentOf?_lower, Option.map_map, Option.map_map]
  exact congrArg (Option.map · _) (funext Text.trim_lower)

/-! ### Classification -/

namespace Classification

theorem categoryOf?_lower (t : Text) : categoryOf? (Text.lower t) = categoryOf? t := by
  simp only [categoryOf?, Production.accepts_lower, Pseudo.hasElementForm_lower]

theorem category_lower (t : Text) :
    (ofText (Text.lower t)).toOption.map (·.category) = (ofText t).toOption.map (·.category) := by
  rw [ofText, ofText, Text.isEmpty_lower, categoryOf?_lower]
  split
  · rfl
  · cases categoryOf? t <;> rfl

variable {t : Text} {c : Classification}

theorem exists_ofText_lower (h : ofText t = .ok c) :
    ∃ c', ofText (Text.lower t) = .ok c' ∧ c'.category = c.category := by
  have hcategory := category_lower t
  rw [h] at hcategory
  cases hlower : ofText (Text.lower t) with
  | error e => simp [hlower, Except.toOption] at hcategory
  | ok c' => exact ⟨c', rfl, by simpa [hlower, Except.toOption] using hcategory⟩

theorem exists_error_lower {e : SelectorError} (h : ofText t = .error e) : ∃ e', ofText (Text.lower t) = .error e' := by
  have hcategory := category_lower t
  rw [h] at hcategory
  cases hlower : ofText (Text.lower t) with
  | error e' => exact ⟨e', rfl⟩
  | ok c' => simp [hlower, Except.toOption] at hcategory

end Classification

/-! ### Judgements -/

namespace Validator

variable {m : Type → Type} [Monad m] {t : Text} {c : Classification}

/-- What the grammar alone says about a selector of a category that is not inside a negation. -/
def verdict (t : Text) : Category → Bool
  | .pseudoClass => Pseudo.isValidClass t
  | .pseudoElement => Pseudo.isValidElement t
  | .negation => false
  | _ => true

theorem verdict_lower (t : Text) (category : Category) : verdict (Text.lower t) category = verdict t category := by
  cases category with
  | pseudoClass => exact Pseudo.isValidClass_lower t
  | pseudoElement => exact Pseudo.isValidElement_lower t
  | _ => rfl

theorem judgeUnnegated_lenient (hc : Classification.ofText t = .ok c) :
    (lenient : Validator m).judgeUnnegated t c.category = pure (verdict t c.category) := by
  by_cases hattribute : c.category = .attribute
  · obtain ⟨a, ha, -⟩ := Attribute.exists_ofText hc hattribute
    rw [hattribute, judgeUnnegated, ha]
    rfl
  · match c.category, hattribute with
    | .typeSelector, _ | .universal, _ | .classSelector, _ | .idSelector, _ | .combinator, _ | .negation, _ |
      .pseudoClass, _ | .pseudoElement, _ => rfl

/-- Outside of negations the verdict depends on the category. -/
theorem judge_lenient_lower_of_ne_negation (hc : Classification.ofText t = .ok c) (hne : c.category ≠ .negation) :
    (lenient : Validator m).judge (Text.lower t) = lenient.judge t := by
  obtain ⟨c', hc', hcategory⟩ := Classification.exists_ofText_lower hc
  rw [judge_of_ne_negation hc hne, judge_of_ne_negation hc' (hcategory ▸ hne), judgeUnnegated_lenient hc,
    judgeUnnegated_lenient hc', hcategory, verdict_lower]

/-- A negation is cut where it is cut in lower case, and the selector inside is judged like any other. -/
theorem judge_lenient_lower_of_negation (hc : Classification.ofText t = .ok c) (hnegation : c.category = .negation) :
    (lenient : Validator m).judge (Text.lower t) = lenient.judge t := by
  obtain ⟨c', hc', hcategory⟩ := Classification.exists_ofText_lower hc
  have hnegation' := hcategory.trans hnegation
  obtain ⟨inner, hinner⟩ := Negation.exists_innerText? (Negation.derives_of_classification hc hnegation)
  have hinner' : Negation.innerText? (Text.lower t) = some (Text.lower inner) := by
    rw [Negation.innerText?_lower, hinner]
    rfl
  cases hfound : Classification.ofText inner with
  | error e =>
    obtain ⟨e', he'⟩ := Classification.exists_error_lower hfound
    rw [judge_of_inner_error hc hnegation hinner hfound, judge_of_inner_error hc' hnegation' hinner' he']
  | ok found =>
    obtain ⟨found', hfound', hsame⟩ := Classification.exists_ofText_lower hfound
    rw [judge_of_inner hc hnegation hinner hfound, judge_of_inner hc' hnegation' hinner' hfound', hsame]
    split
    · rename_i hallows
      exact judge_lenient_lower_of_ne_negation hfound (Negation.allows_iff.1 hallows).1
    · rfl

theorem judge_lenient_lower (t : Text) : (lenient : Validator m).judge (Text.lower t) = lenient.judge t := by
  cases hc : Classification.ofText t with
  | error e =>
    obtain ⟨e', he'⟩ := Classification.exists_error_lower hc
    rw [judge_of_error hc, judge_of_error he']
  | ok c =>
    by_cases hnegation : c.category = .negation
    · exact judge_lenient_lower_of_negation hc hnegation
    · exact judge_lenient_lower_of_ne_negation hc hnegation

end Validator

theorem isValidGroup_lower (t : Text) : isValidGroup (Text.lower t) = isValidGroup t := by
  rw [isValidGroup, isValidGroup, Text.isEmpty_lower, Production.accepts_lower]

theorem isValidSelector_lower (t : Text) : isValidSelector false (Text.lower t) = isValidSelector false t :=
  congrArg Id.run (Validator.judge_lenient_lower (m := Id) t)

/-- Texts that are the same in lower case are the same to everything that asks the grammar alone: to each production,
with the length of its match in characters and in bytes, to the classifier, to the cut into tokens, to the cut of groups
and to the judgements. -/
theorem eq_of_lower {s s' : Text} (h : Text.lower s = Text.lower s') :
    (∀ p : Production, p.accepts s = p.accepts s' ∧ p.leadLength? s = p.leadLength? s' ∧
      (p.leadLength? s).map (fun n => Text.byteLength (s.take n)) =
        (p.leadLength? s').map (fun n => Text.byteLength (s'.take n))) ∧
    (Classification.ofText s).toOption.map (·.category) = (Classification.ofText s').toOption.map (·.category) ∧
    Token.outlines s = Token.outlines s' ∧
    (Group.sequences s).map Text.lower = (Group.sequences s').map Text.lower ∧
    isValidGroup s = isValidGroup s' ∧ isValidSelector false s = isValidSelector false s' ∧
    Pseudo.isValidClass s = Pseudo.isValidClass s' ∧ Pseudo.isValidElement s = Pseudo.isValidElement s' := by
  refine ⟨fun p => ⟨?_, ?_, ?_⟩, ?_, ?_, ?_, ?_, ?_, ?_, ?_⟩
  · rw [← p.accepts_lower, h, p.accepts_lower]
  · rw [← p.leadLength?_lower, h, p.leadLength?_lower]
  · rw [← p.leadBytes_lower, h, p.leadBytes_lower]
  · rw [← Classification.category_lower, h, Classification.category_lower]
  · rw [← Token.outlines_lower, h, Token.outlines_lower]
  · rw [← Group.sequences_lower, h, Group.sequences_lower]
  · rw [← isValidGroup_lower, h, isValidGroup_lower]
  · rw [← isValidSelector_lower, h, isValidSelector_lower]
  · rw [← Pseudo.isValidClass_lower, h, Pseudo.isValidClass_lower]
  · rw [← Pseudo.isValidElement_lower, h, Pseudo.isValidElement_lower]

/-- Letters are escaped by their numbers, which have letters themselves, in a negation and in its argument. -/
theorem eq_of_lower_of_escapes :
    let s := ":N\\4F T( SVG|\\4a )".toList
    let s' := ":n\\4f t( svg|\\4A )".toList
    Text.lower s = Text.lower s' ∧ (∀ p : Production, p.accepts s = p.accepts s') ∧
    Token.outlines s = Token.outlines s' ∧ isValidSelector false s = isValidSelector false s' ∧
    Token.outlines s = .ok [(.negation, 0, 18)] ∧ isValidSelector false s' = true := by
  intro s s'
  have h : Text.lower s = Text.lower s' := by decide
  obtain ⟨hproductions, -, houtlines, -, -, hvalid, -, -⟩ := eq_of_lower h
  exact ⟨h, fun p => (hproductions p).1, houtlines, hvalid, by decide +kernel, by decide +kernel⟩

end SelectorSyntax
