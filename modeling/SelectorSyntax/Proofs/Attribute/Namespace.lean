import SelectorSyntax.Proofs.Attribute.Composition

/-!
# Names with a namespace

A name and the namespace before it, if there is one, with a bar between them.  The grammar has a rule for what stands
before the bar, and the scanner for bars (`QualifiedName.ofText`) has none: it takes the first bar that no backslash
escapes.  They find the same bar (`QualifiedName.derived_iff`), because neither a namespace nor a name has a bar of
its own.  So the parts that the scanner finds are what the classifier shows and what the attribute selector with this
name alone says (`QualifiedName.ofText_agrees_with_grammar`).
-/

namespace SelectorSyntax.QualifiedName

open SelectorSyntax.Derivation

/-- The ways a name is written: without a namespace, with the empty one, with the sign for any of them, or with an
identifier. -/
inductive Spells : QualifiedName → Text → Prop
  | plain {m : Text} : Spells ⟨none, m⟩ m
  | empty {m : Text} : Spells ⟨some [], m⟩ ('|' :: m)
  | any {m : Text} : Spells ⟨some ['*'], m⟩ ('*' :: '|' :: m)
  | named {i m : Text} : Production.ident.accepts i = true → Spells ⟨some i, m⟩ (i ++ '|' :: m)

variable {m n t : Text} {q : QualifiedName}

theorem exists_spells (hn : Maybe NamespaceQualifier n) (m : Text) :
    ∃ q : QualifiedName, q.Spells (n ++ m) ∧ q.name = m := by
  rcases hn with _ | _ | @⟨i, hi⟩ | _
  · exact ⟨_, .plain, rfl⟩
  · exact ⟨_, .empty, rfl⟩
  · have hacc : Production.ident.accepts i = true := (Production.accepts_iff_derives .ident _).2 hi
    exact ⟨_, by simpa using Spells.named hacc, rfl⟩
  · exact ⟨_, .any, rfl⟩

/-- What stands before the name is a namespace by the rule of the grammar. -/
theorem Spells.exists_qualifier (h : q.Spells t) : ∃ n, Maybe NamespaceQualifier n ∧ t = n ++ q.name := by
  rcases h with _ | _ | _ | @⟨i, m, hi⟩
  · exact ⟨[], .absent, rfl⟩
  · exact ⟨['|'], .present .empty, rfl⟩
  · exact ⟨['*', '|'], .present .any, rfl⟩
  · have hident : Ident i := (Production.accepts_iff_derives .ident _).1 hi
    exact ⟨i ++ ['|'], .present (.ident hident), by simp⟩

theorem Spells.isQualifier (h : q.Spells t) :
    ∀ n ∈ q.qualifier, n = [] ∨ n = ['*'] ∨ Production.ident.accepts n = true := by
  rcases h with _ | _ | _ | hi <;> simp_all

/-- The scanner finds the parts that a name is written from, if the name has no bar of its own. -/
theorem Spells.ofText_eq (h : q.Spells t) (hm : Escaping Rule.IsNamespaceChar q.name) : ofText t = q := by
  have hbar : ¬ Rule.IsNamespaceChar '|' := fun h => Rule.not_isNamespaceChar_bar (.inr h)
  rcases h with _ | _ | _ | @⟨i, m, hi⟩
  · exact ofText_of_escaping hbar hm
  · exact ofText_append_bar hbar .nil
  · exact ofText_append_bar hbar (.plain (by decide) (.inl rfl) .nil)
  · have hident : Ident i := (Production.accepts_iff_derives .ident _).1 hi
    exact ofText_append_bar hbar (hident.escaping.mono fun _ => .inr)

/-- A rule that has a name after an optional namespace derives the texts that the scanner takes apart into such a
name and a namespace. -/
theorem derived_iff {P : Text → Prop} (hP : ∀ m, P m → Escaping Rule.IsNamespaceChar m) :
    (∃ n m, Maybe NamespaceQualifier n ∧ P m ∧ t = n ++ m) ↔ (ofText t).Spells t ∧ P (ofText t).name := by
  constructor
  · rintro ⟨n, m, hn, hm, rfl⟩
    obtain ⟨q, hspells, rfl⟩ := exists_spells hn m
    rw [hspells.ofText_eq (hP _ hm)]
    exact ⟨hspells, hm⟩
  · rintro ⟨hspells, hm⟩
    obtain ⟨n, hn, ht⟩ := hspells.exists_qualifier
    exact ⟨n, _, hn, hm, ht⟩

theorem typeSelector_iff : TypeSelector t ↔ (ofText t).Spells t ∧ Ident (ofText t).name := by
  rw [← derived_iff fun _ hm => hm.escaping.mono fun _ => .inr]
  constructor
  · rintro ⟨hn, hi⟩
    exact ⟨_, _, hn, hi, rfl⟩
  · rintro ⟨n, i, hn, hi, rfl⟩
    exact .mk hn hi

theorem universal_iff : Universal t ↔ (ofText t).Spells t ∧ (ofText t).name = ['*'] := by
  rw [← derived_iff (P := (· = ['*'])) fun m hm => hm ▸ .plain (by decide) (.inl rfl) .nil]
  constructor
  · rintro ⟨hn⟩
    exact ⟨_, _, hn, rfl, rfl⟩
  · rintro ⟨n, _, hn, rfl, rfl⟩
    exact .mk hn

/-! ### In a selector -/

/-- The attribute selector that has a name and nothing else. -/
def Spells.composition (h : q.Spells t) (hname : Production.ident.accepts q.name = true) : Attribute.Composition where
  beforeName := []
  qualifier := q.qualifier
  name := q.name
  afterName := []
  test := none
  blanks_beforeName := by decide
  blanks_afterName := by decide
  isQualifier := h.isQualifier
  isName := hname
  endsBefore := fun _ hne hz => absurd (List.prefix_nil.1 hz) hne

theorem Spells.attribute (h : q.Spells t) (hname : Production.ident.accepts q.name = true) :
    Attribute.ofText ('[' :: (t ++ [']'])) = .ok (some ⟨q.qualifier, q.name, none, none⟩) := by
  have htext : (h.composition hname).text = '[' :: (t ++ [']']) := by
    rcases h with _ | _ | _ | _ <;> simp [composition, Attribute.Composition.text]
  rw [← htext, Attribute.Composition.ofText_text]
  rfl

/-- The scanner for bars and the grammar agree on what is a type selector or a universal one: what the scanner finds
spells the text, and the name that it finds is an identifier or the sign for any element.  Its namespace is that of the
classifier.  The name of a type selector in brackets is an attribute selector without a test, which has the namespace
and the name that the scanner finds. -/
theorem ofText_agrees_with_grammar (t : Text) :
    (Production.typeSelector.accepts t = true ↔
      (ofText t).Spells t ∧ Production.ident.accepts (ofText t).name = true) ∧
    (Production.universal.accepts t = true ↔ (ofText t).Spells t ∧ (ofText t).name = ['*']) ∧
    (Production.typeSelector.accepts t = true →
      Classification.ofText t = .ok ⟨.typeSelector, (ofText t).qualifier⟩ ∧
        Attribute.ofText ('[' :: (t ++ [']'])) = .ok (some ⟨(ofText t).qualifier, (ofText t).name, none, none⟩)) ∧
    (Production.universal.accepts t = true →
      Classification.ofText t = .ok ⟨.universal, (ofText t).qualifier⟩) := by
  simp only [Production.accepts_iff_derives, Production.Derives]
  refine ⟨typeSelector_iff, universal_iff, ?_, ?_⟩
  · intro h
    obtain ⟨hspells, hname⟩ := typeSelector_iff.1 h
    have hkind : Token.IsKind .typeSelector t := Token.isKind_of_ne_pseudo (by decide) (by decide) h
    exact ⟨Token.classification_of_categoryAs hkind rfl,
      hspells.attribute ((Production.accepts_iff_derives .ident _).2 hname)⟩
  · intro h
    have hkind : Token.IsKind .universal t := Token.isKind_of_ne_pseudo (by decide) (by decide) h
    exact Token.classification_of_categoryAs hkind rfl

/-- The bar after the first backslash and the bar that an escape stands for belong to the names, the blank after the
digits of an escape does as well. -/
theorem ofText_agrees_with_grammar_of_escapes :
    let t := "n\\|\\31 |\\7c a".toList
    Production.typeSelector.accepts t = true ∧
      ofText t = ⟨some "n\\|\\31 ".toList, "\\7c a".toList⟩ ∧
      Classification.ofText t = .ok ⟨.typeSelector, some "n\\|\\31 ".toList⟩ ∧
      Attribute.ofText ('[' :: (t ++ [']'])) =
        .ok (some ⟨some "n\\|\\31 ".toList, "\\7c a".toList, none, none⟩) := by
  intro t
  have haccepts : Production.typeSelector.accepts t = true := by decide +kernel
  have hparts : ofText t = ⟨some "n\\|\\31 ".toList, "\\7c a".toList⟩ := by decide
  obtain ⟨-, -, htype, -⟩ := ofText_agrees_with_grammar t
  rw [hparts] at htype
  exact ⟨haccepts, hparts, htype haccepts⟩

end SelectorSyntax.QualifiedName
