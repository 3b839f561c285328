import SelectorSyntax.Proofs.Attribute.Parts
import SelectorSyntax.Proofs.Validation.Judgement

/-!
# The question of a strict judgement

Which question a judgement asks depends on the text alone.  A type selector is asked about by its name without the
namespace, an attribute selector by the name in its brackets, and a negation of one of these by the name of the selector
inside (`Question.Concerns`).  Either there is such a question, and the judgement is to ask one, or there is none, and
the judgement is settled (`Validator.asksOnce_judge`).

Nothing is assumed of who answers: the answers come in any monad.
-/

namespace SelectorSyntax

open SelectorSyntax.Derivation

variable {t : Text}

/-! ### Names -/

/-- The scanner for bars finds the name of a type selector. -/
theorem QualifiedName.name_ofText {n i : Text} (hn : Maybe NamespaceQualifier n) (hi : Ident i) :
    (QualifiedName.ofText (n ++ i)).name = i := by
  have hbar : ¬ Rule.IsNamespaceChar '|' := fun h => Rule.not_isNamespaceChar_bar (.inr h)
  rcases hn with _ | hn
  · have hescaping : Escaping Rule.IsNamespaceChar i := hi.escaping.mono fun _ => .inr
    rw [List.nil_append, QualifiedName.ofText_of_escaping hbar hescaping]
  · obtain ⟨a, ha, rfl⟩ := Rule.NamespaceQualifier.escaping hn
    rw [List.append_assoc, List.singleton_append, QualifiedName.ofText_append_bar hbar ha]

/-! ### Questions -/

namespace Question

/-- The name that a question is about. -/
def name : Question → Text
  | .element name | .attribute name => name

/-- The question is about the name of a type or attribute selector. -/
inductive Names : Question → Text → Prop
  | element {n i : Text} : Maybe NamespaceQualifier n → Ident i → Names (.element i) (n ++ i)
  | attribute {p : Attribute.Parts} {t : Text} : p.Spells t → Names (.attribute p.name) t

/-- The question is about the name of a type or attribute selector, or of one in a negation. -/
inductive Concerns (q : Question) (t : Text) : Prop
  | alone : q.Names t → Concerns q t
  | negated {inner : Text} : Derivation.Negation t → Negation.innerText? t = some inner → q.Names inner → Concerns q t

variable {q : Question}

theorem Names.ident (h : q.Names t) : Ident q.name := by
  rcases h with ⟨-, hi⟩ | hp
  · exact hi
  · exact hp.ident

theorem Concerns.ident (h : q.Concerns t) : Ident q.name := by
  rcases h with h | ⟨-, -, h⟩
  · exact h.ident
  · exact h.ident

theorem Names.classification (h : q.Names t) :
    ∃ c, Classification.ofText t = .ok c ∧ (c.category = .typeSelector ∨ c.category = .attribute) := by
  rcases h with ⟨hn, hi⟩ | hp
  · have hkind : Token.IsKind .typeSelector _ := Token.isKind_of_ne_pseudo (by decide) (by decide) (.mk hn hi)
    exact ⟨_, Token.classification_of_categoryAs hkind rfl, .inl rfl⟩
  · have hkind : Token.IsKind .attrib t := Token.isKind_of_ne_pseudo (by decide) (by decide) hp.attrib
    exact ⟨_, Token.classification_of_categoryAs hkind rfl, .inr rfl⟩

theorem Concerns.classification (h : q.Concerns t) : ∃ c, Classification.ofText t = .ok c := by
  rcases h with h | ⟨hnegation, -, -⟩
  · obtain ⟨c, hc, -⟩ := h.classification
    exact ⟨c, hc⟩
  · exact ⟨_, Negation.classification_of_derives hnegation⟩

variable {c : Classification}

/-- Selectors of other categories have no name to ask about. -/
theorem not_names (hc : Classification.ofText t = .ok c) (htype : c.category ≠ .typeSelector)
    (hattribute : c.category ≠ .attribute) : ¬ q.Names t := by
  intro h
  obtain ⟨c', hc', hcategory⟩ := h.classification
  obtain rfl : c = c' := by simpa [hc] using hc'
  exact hcategory.elim htype hattribute

theorem concerns_iff_of_ne_negation (hc : Classification.ofText t = .ok c) (hne : c.category ≠ .negation) :
    q.Concerns t ↔ q.Names t := by
  refine ⟨?_, .alone⟩
  rintro (h | ⟨hnegation, -, -⟩)
  · exact h
  · rw [Negation.classification_of_derives hnegation] at hc
    cases hc
    exact absurd rfl hne

theorem concerns_iff_of_inner {inner : Text} (hnegation : Derivation.Negation t)
    (hinner : Negation.innerText? t = some inner) : q.Concerns t ↔ q.Names inner := by
  refine ⟨?_, .negated hnegation hinner⟩
  rintro (h | ⟨-, hinner', h⟩)
  · exact absurd h (not_names (Negation.classification_of_derives hnegation) (by decide) (by decide))
  · rwa [Option.some.inj (hinner.symm.trans hinner')]

end Question

/-! ### Judgements -/

namespace Validator

/-- The judgement is to ask one of the questions, whoever answers, or is settled where there are none. -/
inductive AsksOnce (P : Question → Prop) (judgement : (m : Type → Type) → [Monad m] → Validator m → m Bool) : Prop
  | asks {q : Question} : P q → (∀ (m : Type → Type) [Monad m] (v : Validator m), judgement m v = v.ask q) →
      AsksOnce P judgement
  | settled {b : Bool} : (∀ q, ¬ P q) → (∀ (m : Type → Type) [Monad m] (v : Validator m), judgement m v = pure b) →
      AsksOnce P judgement

variable {c : Classification}

/-- No other categories have questions. -/
theorem exists_settled_judgeUnnegated (t : Text) {category : Category} (htype : category ≠ .typeSelector)
    (hattribute : category ≠ .attribute) :
    ∃ b, ∀ (m : Type → Type) [Monad m] (v : Validator m), v.judgeUnnegated t category = pure b := by
  match category, htype, hattribute with
  | .pseudoClass, _, _ => exact ⟨Pseudo.isValidClass t, fun _ _ _ => rfl⟩
  | .pseudoElement, _, _ => exact ⟨Pseudo.isValidElement t, fun _ _ _ => rfl⟩
  | .negation, _, _ => exact ⟨false, fun _ _ _ => rfl⟩
  | .universal, _, _ | .classSelector, _, _ | .idSelector, _, _ | .combinator, _, _ =>
    exact ⟨true, fun _ _ _ => rfl⟩

/-- A selector of any category but negations is asked about by its own name. -/
theorem asksOnce_judgeUnnegated (hc : Classification.ofText t = .ok c) :
    AsksOnce (·.Names t) fun _ _ v => v.judgeUnnegated t c.category := by
  have hkind := (Token.isKind_of_classification hc).1
  by_cases htype : c.category = .typeSelector
  · rw [htype] at hkind ⊢
    obtain ⟨hn, hi⟩ : TypeSelector t := hkind.derives
    refine .asks (.element hn hi) ?_
    intro m _ v
    rw [judgeUnnegated, QualifiedName.name_ofText hn hi]
  · by_cases hattribute : c.category = .attribute
    · rw [hattribute] at hkind ⊢
      obtain ⟨p, hp, hspells⟩ := Attribute.Parts.exists_spells hkind.derives
      refine .asks (.attribute hspells) ?_
      intro m _ v
      rw [judgeUnnegated, Attribute.ofText_of_parts hc hattribute hp]
      rfl
    · obtain ⟨b, hb⟩ := exists_settled_judgeUnnegated t htype hattribute
      exact .settled (fun _ => Question.not_names hc htype hattribute) hb

/-- A negation is asked about by the name of the selector inside, if that may be negated. -/
theorem asksOnce_judge_of_negation (hc : Classification.ofText t = .ok c) (hnegation : c.category = .negation) :
    AsksOnce (·.Concerns t) fun _ _ v => v.judge t := by
  have hderives := Negation.derives_of_classification hc hnegation
  obtain ⟨inner, hinner⟩ := Negation.exists_innerText? hderives
  simp only [Question.concerns_iff_of_inner hderives hinner]
  cases hfound : Classification.ofText inner with
  | error e =>
    refine .settled ?_ fun m _ v => judge_of_inner_error hc hnegation hinner hfound
    intro q hnames
    obtain ⟨found, hok, -⟩ := hnames.classification
    rw [hfound] at hok
    cases hok
  | ok found =>
    have hjudge (m : Type → Type) [Monad m] (v : Validator m) := judge_of_inner (v := v) hc hnegation hinner hfound
    by_cases hallows : Negation.allows found.category = true
    · simp only [hjudge, hallows, if_true, judge_of_ne_negation hfound (Negation.allows_iff.1 hallows).1]
      exact asksOnce_judgeUnnegated hfound
    · -- what may not be negated has no name to ask about
      refine .settled (fun q => Question.not_names hfound ?_ ?_) fun m _ v => by rw [hjudge, if_neg hallows]
      · exact fun h => hallows (h ▸ rfl)
      · exact fun h => hallows (h ▸ rfl)

/-- Judging a text is to ask a question that concerns it, if there is one. -/
theorem asksOnce_judge (t : Text) : AsksOnce (·.Concerns t) fun _ _ v => v.judge t := by
  cases hc : Classification.ofText t with
  | error e =>
    refine .settled ?_ fun m _ v => judge_of_error hc
    intro q hconcerns
    obtain ⟨c, hok⟩ := hconcerns.classification
    rw [hc] at hok
    cases hok
  | ok c =>
    by_cases hnegation : c.category = .negation
    · exact asksOnce_judge_of_negation hc hnegation
    · simp only [Question.concerns_iff_of_ne_negation hc hnegation, judge_of_ne_negation hc hnegation]
      exact asksOnce_judgeUnnegated hc

/-- A text has at most one question, about an identifier in it.  A strict judgement asks exactly this question, and is
the judgement by the grammar together with the answer. -/
theorem judge_eq_ask (t : Text) : ∃ q : Option Question,
    (∀ question ∈ q, Production.ident.accepts question.name = true ∧ question.Concerns t) ∧
    (q = none → ∀ question : Question, ¬ question.Concerns t) ∧
    (∀ (m : Type → Type) [Monad m] [LawfulMonad m] (answer : Question → m Bool) (engine : Option (Text → m Bool)),
      Validator.judge ⟨some answer, engine⟩ t = do
        let yes ← q.elim (pure true) answer
        return isValidSelector false t && yes) ∧
    ∀ (answer : Question → Bool) (engine : Option (Text → Id Bool)),
      Id.run (Validator.judge ⟨some answer, engine⟩ t) = true → isValidSelector false t = true := by
  rcases asksOnce_judge t with @⟨question, hconcerns, hjudge⟩ | @⟨b, hnone, hjudge⟩
  · have hvalid : isValidSelector false t = true := by
      rw [isValidSelector, hjudge]
      rfl
    have hident : Production.ident.accepts question.name = true := by
      rw [Production.accepts_iff_matches, Production.matches_pattern]
      exact hconcerns.ident
    refine ⟨some question, ?_, by simp, ?_, fun _ _ _ => hvalid⟩
    · simpa using ⟨hident, hconcerns⟩
    · intro m _ _ answer engine
      rw [hjudge, hvalid]
      simp [ask]
  · have hvalid : isValidSelector false t = b := by
      rw [isValidSelector, hjudge]
      rfl
    refine ⟨none, by simp, fun _ => hnone, ?_, ?_⟩
    · intro m _ _ answer engine
      rw [hjudge, hvalid]
      simp
    · intro answer engine h
      rw [hjudge] at h
      rw [hvalid]
      exact h

/-- Questions are recorded as they are asked.  The one of a negation is about the name inside, without its namespace. -/
theorem judge_eq_ask_of_negated :
    let t := ":not( svg|\\61 )".toList
    let record (q : Question) : StateM (List Question) Bool := do
      modify (q :: ·)
      return false
    Id.run (StateT.run (Validator.judge ⟨some record, none⟩ t) []) = (false, [.element "\\61".toList]) ∧
    ∃ q : Option Question,
      (∀ question ∈ q, Production.ident.accepts question.name = true ∧ question.Concerns t) ∧
      Validator.judge ⟨some record, none⟩ t = do
        let yes ← q.elim (pure true) record
        return isValidSelector false t && yes := by
  intro t record
  obtain ⟨q, hq, -, hjudge, -⟩ := judge_eq_ask t
  exact ⟨by decide +kernel, q, hq, hjudge _ record none⟩

end Validator

end SelectorSyntax
