import SelectorSyntax.Proofs.Token.Elements
import SelectorSyntax.Proofs.Validation.Question
import SelectorSyntax.Report

/-!
# What a report says

A report takes the same text apart several times: it is cut into tokens twice, and each token is classified, taken
apart by its category and judged.  Each of these can fail, and each by itself.

* Once the text has tokens none of them does (`Report.exists_ofText`), because the text of a token is classified by the
  token's production, and what is classified as an attribute selector or a pseudo has parts.
* The report on a token is described by the analyses it is made from (`TokenReport.Describes`), and from these follows
  what its entries have to do with each other (`TokenReport.Fits`).
-/

namespace SelectorSyntax

open SelectorSyntax.Derivation

variable {t : Text} {c : Classification}

theorem Token.qualifier_of_classification (hc : Classification.ofText t = .ok c) :
    c.qualifier = Classification.qualifierOf t c.category := by
  obtain ⟨hkind, hcategory⟩ := isKind_of_classification hc
  have h := classification_of_categoryAs hkind hcategory
  rw [hc] at h
  exact congrArg Classification.qualifier (Except.ok.inj h)

theorem Pseudo.ofText_of_classification (hc : Classification.ofText t = .ok c) (hpseudo : c.category.isPseudo = true) :
    ofText t = .ok (some (split t)) := by
  simp [ofText, Token.isEmpty_of_classification hc, hc, hpseudo]

/-! ### Parts -/

namespace TokenDetail

/-- The parts that a classified text has.  Only a negation may have none where its category has some. -/
inductive Suits (t : Text) (c : Classification) : TokenDetail → Prop
  | attribute {a : Attribute} : c.category = .attribute → a.qualifier = c.qualifier → Suits t c (.attribute a)
  | pseudo {p : Pseudo} : c.category.isPseudo = true → Suits t c (.pseudo p)
  | negation {n : Negation} : c.category = .negation → Suits t c (.negation n)
  | refused : c.category = .negation → (∀ n, Negation.ofText t ≠ .ok (some n)) → Suits t c .plain
  | plain : c.category ≠ .attribute → c.category.isPseudo = false → c.category ≠ .negation → Suits t c .plain

theorem exists_suits (hc : Classification.ofText t = .ok c) :
    ∃ d, ofText t c.category = .ok d ∧ d.Suits t c := by
  have hkind := (Token.isKind_of_classification hc).1
  match hcategory : c.category with
  | .attribute =>
    rw [hcategory] at hkind
    obtain ⟨p, hp, -⟩ := Attribute.Parts.exists_spells hkind.derives
    have hqualifier : (Attribute.ofParts p).qualifier = c.qualifier := by
      rw [Token.qualifier_of_classification hc, hcategory, Classification.qualifierOf, hp]
      rfl
    refine ⟨.attribute (Attribute.ofParts p), ?_, .attribute hcategory hqualifier⟩
    rw [ofText, Attribute.ofText_of_parts hc hcategory hp]
    rfl
  | .pseudoClass | .pseudoElement =>
    have hpseudo : c.category.isPseudo = true := by rw [hcategory]; rfl
    refine ⟨.pseudo (Pseudo.split t), ?_, .pseudo hpseudo⟩
    rw [ofText, Pseudo.ofText_of_classification hc hpseudo]
    rfl
  | .negation =>
    by_cases hn : ∃ n, Negation.ofText t = .ok (some n)
    · obtain ⟨n, hn⟩ := hn
      refine ⟨.negation n, ?_, .negation hcategory⟩
      rw [ofText, hn]
    · refine ⟨.plain, ?_, .refused hcategory (not_exists.1 hn)⟩
      rw [ofText]
      split
      · rename_i n hok
        exact absurd ⟨n, hok⟩ hn
      · rfl
  | .combinator | .typeSelector | .universal | .classSelector | .idSelector =>
    exact ⟨.plain, rfl, .plain (by simp [hcategory]) (by simp [hcategory, Category.isPseudo]) (by simp [hcategory])⟩

section

variable {d : TokenDetail}

theorem Suits.attribute_iff (h : d.Suits t c) : (∃ a, d = .attribute a) ↔ c.category = .attribute := by
  match h with
  | .attribute hcategory _ => simp [hcategory]
  | .pseudo hpseudo =>
    have hne : c.category ≠ .attribute := fun heq => by simp [heq, Category.isPseudo] at hpseudo
    simp [hne]
  | .negation hcategory => simp [hcategory]
  | .refused hcategory _ => simp [hcategory]
  | .plain hattribute _ _ => simp [hattribute]

theorem Suits.pseudo_iff (h : d.Suits t c) : (∃ p, d = .pseudo p) ↔ c.category.isPseudo = true := by
  match h with
  | .attribute hcategory _ => simp [hcategory, Category.isPseudo]
  | .pseudo hpseudo => simp [hpseudo]
  | .negation hcategory => simp [hcategory, Category.isPseudo]
  | .refused hcategory _ => simp [hcategory, Category.isPseudo]
  | .plain _ hpseudo _ => simp [hpseudo]

theorem Suits.qualifier {a : Attribute} (h : Suits t c (.attribute a)) : a.qualifier = c.qualifier := by
  match h with
  | .attribute _ hqualifier => exact hqualifier

theorem Suits.category_of_negation {n : Negation} (h : Suits t c (.negation n)) : c.category = .negation := by
  match h with
  | .negation hcategory => exact hcategory

/-- A negation has the selector inside unless none is taken from its text. -/
theorem Suits.of_negation (h : d.Suits t c) (hc : c.category = .negation) (hd : ∀ n, d ≠ .negation n) :
    ∀ n, Negation.ofText t ≠ .ok (some n) := by
  match h with
  | .attribute hcategory _ => simp [hc] at hcategory
  | .pseudo hpseudo => simp [hc, Category.isPseudo] at hpseudo
  | .negation _ => exact absurd rfl (hd _)
  | .refused _ hrefused => exact hrefused
  | .plain _ _ hnegation => exact absurd hc hnegation

end

end TokenDetail

/-- A negation from which no selector is taken is not valid. -/
theorem Validator.judge_of_refused {m : Type → Type} [Monad m] {v : Validator m} (hc : Classification.ofText t = .ok c)
    (hnegation : c.category = .negation) (h : ∀ n, Negation.ofText t ≠ .ok (some n)) : v.judge t = pure false := by
  rw [judge, hc]
  simp only [hnegation, if_true]

/-- What is valid by its name is valid. -/
theorem isValidSelector_of_strict (h : isValidSelector true t = true) : isValidSelector false t = true := by
  rcases Validator.asksOnce_judge t with @⟨q, -, hjudge⟩ | @⟨b, -, hjudge⟩
  · rw [isValidSelector, hjudge]
    rfl
  · rw [isValidSelector, hjudge] at h ⊢
    exact h

/-! ### Reports on tokens -/

namespace TokenReport

variable {strict : Bool} {token : Token} {r : TokenReport}

/-- The analyses that the report on a token is made from. -/
structure Describes (strict : Bool) (r : TokenReport) (token : Token) : Prop where
  text : r.text = token.text
  offset : r.offset = token.offset
  classification : Classification.ofText r.text = .ok ⟨r.category, r.qualifier⟩
  valid : r.valid = isValidSelector strict r.text
  detail : r.detail.Suits r.text ⟨r.category, r.qualifier⟩

/-- The entries of the report on a token agree with each other: the text is classified and judged as it says, it has the
parts of its category, the namespace of an attribute selector is found in its parts as well, and a negation without the
selector inside is not valid. -/
structure Fits (strict : Bool) (r : TokenReport) : Prop where
  classification : Classification.ofText r.text = .ok ⟨r.category, r.qualifier⟩
  valid : r.valid = isValidSelector strict r.text
  attribute_iff : (∃ a, r.detail = .attribute a) ↔ r.category = .attribute
  qualifier : ∀ a, r.detail = .attribute a → a.qualifier = r.qualifier
  pseudo_iff : (∃ p, r.detail = .pseudo p) ↔ r.category.isPseudo = true
  negation : ∀ n, r.detail = .negation n → r.category = .negation
  refused : r.category = .negation → (∀ n, r.detail ≠ .negation n) → r.valid = false

theorem exists_ofToken (strict : Bool) (h : Token.IsKind token.production token.raw) :
    ∃ r, ofToken strict token = .ok r ∧ r.Describes strict token := by
  obtain ⟨c, hc, -⟩ := Token.classification_of_isKind (Token.isKind_text h)
  obtain ⟨d, hd, hsuits⟩ := TokenDetail.exists_suits hc
  refine ⟨⟨token.text, token.offset, c.category, c.qualifier, isValidSelector strict token.text, d⟩, ?_, ?_⟩
  · simp only [ofToken, hc, hd, bind, Except.bind, pure, Except.pure]
  · exact ⟨rfl, rfl, hc, rfl, hsuits⟩

theorem Describes.fits (h : r.Describes strict token) : r.Fits strict where
  classification := h.classification
  valid := h.valid
  attribute_iff := h.detail.attribute_iff
  qualifier a ha := (ha ▸ h.detail).qualifier
  pseudo_iff := h.detail.pseudo_iff
  negation n hn := (hn ▸ h.detail).category_of_negation
  refused hnegation hnone := by
    have hrefused := h.detail.of_negation hnegation hnone
    rw [h.valid, isValidSelector, Validator.judge_of_refused h.classification hnegation hrefused]
    rfl

end TokenReport

/-! ### Reports on texts -/

theorem exists_mapM_eq_ok {α β ε : Type} {f : α → Except ε β} {P : α → β → Prop} {as : List α}
    (h : ∀ a ∈ as, ∃ b, f a = .ok b ∧ P a b) : ∃ bs, as.mapM f = .ok bs ∧ List.Forall₂ P as bs := by
  induction as with
  | nil => exact ⟨[], rfl, .nil⟩
  | cons a as ih =>
    rw [List.forall_mem_cons] at h
    obtain ⟨⟨b, hb, hP⟩, has⟩ := h
    obtain ⟨bs, hbs, hPs⟩ := ih has
    refine ⟨b :: bs, ?_, .cons hP hPs⟩
    rw [List.mapM_cons, hb, hbs]
    rfl

/-- The text is classified as a combinator. -/
def IsCombinator (t : Text) : Prop :=
  ∃ c, Classification.ofText t = .ok c ∧ c.category = .combinator

theorem isCombinator_text_iff {token : Token} (h : Token.IsKind token.production token.raw) :
    IsCombinator token.text ↔ token.isCombinator = true := by
  have hkind := Token.isKind_text h
  rw [Token.isCombinator, beq_iff_eq]
  constructor
  · rintro ⟨c, hc, hcategory⟩
    have hcombinator := (Token.isKind_of_classification hc).1
    rw [hcategory] at hcombinator
    exact hkind.unique hcombinator
  · intro hp
    exact ⟨_, Token.classification_of_categoryAs hkind (by rw [hp]; rfl), rfl⟩

namespace Report

variable {strict : Bool} {tokens : List Token} {reports : List TokenReport} {r : Report}

/-- A report on a text with these tokens: it lists the tokens in order, and gathers their texts into elements, each but
the first one led by a combinator, with no other combinators in them. -/
structure Lists (r : Report) (tokens : List Token) : Prop where
  tokens_eq : r.tokens.map (fun s => (s.offset, s.text)) = tokens.map fun s => (s.offset, s.text)
  flatten_elements : r.elements.flatten = tokens.map Token.text
  ne_nil : ∀ e ∈ r.elements, e ≠ []
  led : ∀ e ∈ r.elements.tail, ∃ s u, e = s :: u ∧ IsCombinator s
  alone : ∀ e ∈ r.elements, ∀ s ∈ e.tail, ¬ IsCombinator s

theorem ofText_of_error {e : SelectorError} (h : Token.ofText t = .error e) : ofText strict t = .error e := by
  simp only [ofText, h, bind, Except.bind]

/-- A text with tokens has a report. -/
theorem exists_ofText (strict : Bool) (h : Token.ofText t = .ok tokens) :
    ∃ reports, ofText strict t = .ok ⟨t, (Token.elementsOf tokens).map (·.map Token.text), reports⟩ ∧
      List.Forall₂ (fun token r => r.Describes strict token) tokens reports := by
  obtain ⟨reports, hreports, hdescribes⟩ := exists_mapM_eq_ok fun token hmem =>
    TokenReport.exists_ofToken strict (Token.isKind_of_mem h hmem)
  refine ⟨reports, ?_, hdescribes⟩
  simp only [ofText, Token.elements, h, hreports, Except.map, bind, Except.bind, pure, Except.pure]

theorem isValid_eq (h : List.Forall₂ (fun token r => r.Describes strict token) tokens reports) (u : Text)
    (elements : List (List Text)) :
    isValid ⟨u, elements, reports⟩ = tokens.all fun token => isValidSelector strict token.text := by
  rw [isValid]
  induction h with
  | nil => rfl
  | cons hr _ ih => rw [List.all_cons, List.all_cons, ih, hr.valid, hr.text]

theorem fits_of_describes (h : List.Forall₂ (fun token r => r.Describes strict token) tokens reports) :
    ∀ s ∈ reports, s.Fits strict := by
  induction h with
  | nil => exact List.forall_mem_nil _
  | cons hr _ ih => exact List.forall_mem_cons.2 ⟨hr.fits, ih⟩

theorem lists_of_describes (h : Token.ofText t = .ok tokens)
    (hdescribes : List.Forall₂ (fun token r => r.Describes strict token) tokens reports) :
    Lists ⟨t, (Token.elementsOf tokens).map (·.map Token.text), reports⟩ tokens := by
  have hcombinator {e : List Token} (he : e ∈ Token.elementsOf tokens) {s : Token} (hs : s ∈ e) :
      IsCombinator s.text ↔ s.isCombinator = true := by
    have hmem : s ∈ (Token.elementsOf tokens).flatten := List.mem_flatten.2 ⟨e, he, hs⟩
    rw [Token.flatten_elementsOf] at hmem
    exact isCombinator_text_iff (Token.isKind_of_mem h hmem)
  constructor
  case tokens_eq =>
    clear h hcombinator
    induction hdescribes with
    | nil => rfl
    | cons hr _ ih => simpa [hr.offset, hr.text] using ih
  case flatten_elements =>
    rw [← List.map_flatten, Token.flatten_elementsOf]
  case ne_nil =>
    intro texts htexts
    obtain ⟨e, he, rfl⟩ := List.mem_map.1 htexts
    simpa using Token.ne_nil_of_mem_elementsOf he
  case led =>
    intro texts htexts
    rw [← List.map_tail] at htexts
    obtain ⟨e, he, rfl⟩ := List.mem_map.1 htexts
    obtain ⟨c, simple, rfl, hc⟩ := Token.exists_combinator_of_mem_tail he
    exact ⟨c.text, simple.map Token.text, rfl, (hcombinator (List.mem_of_mem_tail he) List.mem_cons_self).2 hc⟩
  case alone =>
    intro texts htexts u hu
    obtain ⟨e, he, rfl⟩ := List.mem_map.1 htexts
    rw [← List.map_tail] at hu
    obtain ⟨s, hs, rfl⟩ := List.mem_map.1 hu
    rw [hcombinator he (List.mem_of_mem_tail hs), Token.isCombinator_of_mem_tail he hs]
    decide

/-- There is a report exactly if the text has tokens, and otherwise the report fails as they do.  A report lists the
tokens and their elements, the entries for each token agree with each other, and a text that is valid by its names is
valid without them. -/
theorem ofText_agrees (strict : Bool) (t : Text) :
    (∀ e, ofText strict t = .error e ↔ Token.ofText t = .error e) ∧
    ∀ r, ofText strict t = .ok r →
      (∃ tokens, Token.ofText t = .ok tokens ∧ r.Lists tokens) ∧
      (∀ s ∈ r.tokens, s.Fits strict) ∧
      (r.isValid = true → ∃ r', ofText false t = .ok r' ∧ r'.isValid = true) := by
  cases h : Token.ofText t with
  | error e =>
    rw [ofText_of_error h]
    exact ⟨fun e' => by simp, nofun⟩
  | ok tokens =>
    obtain ⟨reports, hok, hdescribes⟩ := exists_ofText strict h
    rw [hok]
    refine ⟨fun _ => ⟨nofun, nofun⟩, fun r hr => ?_⟩
    obtain rfl := Except.ok.inj hr
    refine ⟨⟨tokens, rfl, lists_of_describes h hdescribes⟩, fits_of_describes hdescribes, fun hvalid => ?_⟩
    · obtain ⟨reports', hok', hdescribes'⟩ := exists_ofText false h
      refine ⟨_, hok', ?_⟩
      rw [isValid_eq hdescribes', List.all_eq_true]
      rw [isValid_eq hdescribes] at hvalid
      intro token hmem
      cases strict with
      | false => exact List.all_eq_true.1 hvalid token hmem
      | true => exact isValidSelector_of_strict (List.all_eq_true.1 hvalid token hmem)

end Report

end SelectorSyntax
