import SelectorSyntax.Attribute
import SelectorSyntax.Proofs.Pattern.Trail
import SelectorSyntax.Proofs.Token.Kind

/-!
# The parts of an attribute selector

The marked rule for attribute selectors has the texts of the plain one, and the marks of a match of it are those of
its parts, in their order.  So every attribute selector has parts, and these put together again with blanks between
them are the selector (`Attribute.Parts.Spells`).  An operator comes with a value.
-/

namespace SelectorSyntax

open SelectorSyntax.Derivation

/-! ### The marked rule -/

namespace Rule

open Pattern Lexeme

/-- The texts of a bracketed rule depend on the texts of its parts alone. -/
theorem matches_bracketed {q q' n n' o o' v v' : Pattern} (hq : q.Matches = q'.Matches) (hn : n.Matches = n'.Matches)
    (ho : o.Matches = o'.Matches) (hv : v.Matches = v'.Matches) :
    (bracketed q n o v).Matches = (bracketed q' n' o' v').Matches := by
  simp only [bracketed, concat, matches_seq, matches_optional, hq, hn, ho, hv]

theorem matches_attribParts : attribParts.Matches = Attrib := by
  rw [← matches_attrib]
  exact matches_bracketed (matches_part _ _) (matches_part _ _) (matches_part _ _) (matches_part _ _)

theorem isUnconditional_attribParts : attribParts.isUnconditional := by
  decide +kernel

theorem traces_optionalBlanks {es : List Event} (h : optionalBlanks.Traces es) : ∃ a, Blanks a ∧ es = Event.reads a :=
  traces_of_unmarked matches_optionalBlanks rfl rfl h

theorem traces_char {c : Char} {es : List Event} (h : (char c).Traces es) : es = Event.reads [c] := by
  obtain ⟨x, rfl, rfl⟩ := traces_of_unmarked (matches_char c) rfl rfl h
  rfl

/-- The trail of the test in an attribute selector. -/
theorem traces_attributeTest {es : List Event}
    (h : (concat [part "operator" attributeOperator, optionalBlanks, part "value" (.alt ident string),
      optionalBlanks]).Traces es) :
    ∃ o c v d, AttributeOperator o ∧ Blanks c ∧ AttributeValue v ∧ Blanks d ∧
      es = Event.named "operator" (some o) ++ (Event.reads c ++ (Event.named "value" (some v) ++ Event.reads d)) := by
  obtain ⟨_, _, hoperator, h₁, rfl⟩ := traces_seq h
  obtain ⟨_, _, hblanks, h₂, rfl⟩ := traces_seq h₁
  obtain ⟨_, _, hvalue, hend, rfl⟩ := traces_seq h₂
  obtain ⟨o, ho, rfl⟩ := traces_part matches_attributeOperator (by decide +kernel) (by decide +kernel) hoperator
  obtain ⟨c, hc, rfl⟩ := traces_optionalBlanks hblanks
  obtain ⟨v, hv, rfl⟩ := traces_part matches_attributeValue (by decide +kernel) (by decide +kernel) hvalue
  obtain ⟨d, hd, rfl⟩ := traces_optionalBlanks hend
  exact ⟨o, c, v, d, ho, hc, hv, hd, rfl⟩

/-- The trail of an attribute selector, up to its test. -/
theorem traces_attribParts {es : List Event} (h : attribParts.Traces es) :
    ∃ a q i b test, Blanks a ∧ (∀ n ∈ q, NamespaceQualifier n) ∧ Ident i ∧ Blanks b ∧
      (test = [] ∨ ∃ o c v d, AttributeOperator o ∧ Blanks c ∧ AttributeValue v ∧ Blanks d ∧
        test = Event.named "operator" (some o) ++ (Event.reads c ++ (Event.named "value" (some v) ++ Event.reads d))) ∧
      es = Event.reads ['['] ++ (Event.reads a ++ (Event.named "qualifier" q ++ (Event.named "name" (some i) ++
        (Event.reads b ++ (test ++ Event.reads [']']))))) := by
  obtain ⟨_, _, hopen, h₁, rfl⟩ := traces_seq h
  obtain ⟨_, _, hbefore, h₂, rfl⟩ := traces_seq h₁
  obtain ⟨_, _, hqualifier, h₃, rfl⟩ := traces_seq h₂
  obtain ⟨_, _, hname, h₄, rfl⟩ := traces_seq h₃
  obtain ⟨_, _, hafter, h₅, rfl⟩ := traces_seq h₄
  obtain ⟨test, _, htest, hclose, rfl⟩ := traces_seq h₅
  obtain rfl := traces_char hopen
  obtain ⟨a, ha, rfl⟩ := traces_optionalBlanks hbefore
  obtain ⟨q, hq, rfl⟩ :=
    traces_optional_part matches_namespaceQualifier (by decide +kernel) (by decide +kernel) hqualifier
  obtain ⟨i, hi, rfl⟩ := traces_part matches_ident (by decide +kernel) (by decide +kernel) hname
  obtain ⟨b, hb, rfl⟩ := traces_optionalBlanks hafter
  obtain rfl := traces_char hclose
  refine ⟨a, q, i, b, test, ha, hq, hi, hb, ?_, rfl⟩
  rcases traces_optional htest with htest | rfl
  · exact .inr (traces_attributeTest htest)
  · exact .inl rfl

end Rule

namespace Attribute

namespace Parts

/-- The parts of an attribute selector, put together again with blanks between them. -/
inductive Spells : Parts → Text → Prop
  | bare {a b name : Text} {qualifier : Option Text} : Blanks a → (∀ n ∈ qualifier, NamespaceQualifier n) →
      Ident name → Blanks b →
      Spells ⟨qualifier, name, none, none⟩ ('[' :: (a ++ qualifier.getD [] ++ name ++ b ++ [']']))
  | tested {a b c d name operator value : Text} {qualifier : Option Text} : Blanks a →
      (∀ n ∈ qualifier, NamespaceQualifier n) → Ident name → Blanks b → AttributeOperator operator → Blanks c →
      AttributeValue value → Blanks d →
      Spells ⟨qualifier, name, some operator, some value⟩
        ('[' :: (a ++ qualifier.getD [] ++ name ++ b ++ (operator ++ c ++ value ++ d) ++ [']']))

variable {t : Text}

theorem Spells.ident {p : Parts} (h : p.Spells t) : Ident p.name := by
  rcases h with ⟨-, -, hi, -⟩ | ⟨-, -, hi, -, -, -, -, -⟩
  · exact hi
  · exact hi

theorem Spells.attrib {p : Parts} (h : p.Spells t) : Attrib t := by
  have hqualifier {q : Option Text} (hq : ∀ n ∈ q, NamespaceQualifier n) : Maybe NamespaceQualifier (q.getD []) := by
    cases q with
    | none => exact .absent
    | some n => exact .present (hq n rfl)
  rcases h with ⟨ha, hq, hi, hb⟩ | ⟨ha, hq, hi, hb, ho, hc, hv, hd⟩
  · have hattrib := Attrib.mk ha (hqualifier hq) hi hb .absent
    rwa [List.append_nil] at hattrib
  · exact .mk ha (hqualifier hq) hi hb (.present (.mk ho hc hv hd))

theorem exists_spells_of_traces {es : List Event} (h : Rule.attribParts.Traces es) :
    ∃ name, Event.part? "name" es = some name ∧
      Spells ⟨Event.part? "qualifier" es, name, Event.part? "operator" es, Event.part? "value" es⟩
        (Event.readText es) := by
  obtain ⟨a, q, i, b, test, ha, hq, hi, hb, htest, rfl⟩ := Rule.traces_attribParts h
  refine ⟨i, by simp, ?_⟩
  rcases htest with rfl | ⟨o, c, v, d, ho, hc, hv, hd, rfl⟩
  · have hspells := Spells.bare ha hq hi hb
    cases q with
    | none => simpa [Pattern.readText_append] using hspells
    | some n => simpa [Pattern.readText_append] using hspells
  · have hspells := Spells.tested ha hq hi hb ho hc hv hd
    cases q with
    | none => simpa [Pattern.readText_append] using hspells
    | some n => simpa [Pattern.readText_append] using hspells

/-- Every attribute selector has parts, and they spell it. -/
theorem exists_spells (h : Attrib t) : ∃ p, ofText? t = some p ∧ p.Spells t := by
  have hsome : (Rule.attribParts.whole? t).isSome = true := by
    have haccepts := Pattern.accepts_iff_matches Rule.isUnconditional_attribParts t
    rw [Rule.matches_attribParts] at haccepts
    exact haccepts.2 h
  obtain ⟨es, hes⟩ := Option.isSome_iff_exists.1 hsome
  obtain ⟨htraces, rfl⟩ := Pattern.traces_of_whole? hes
  obtain ⟨name, hname, hspells⟩ := exists_spells_of_traces htraces
  refine ⟨_, ?_, hspells⟩
  simp [ofText?, hes, hname]

end Parts

theorem ofText_of_parts {t : Text} {c : Classification} {p : Parts} (hc : Classification.ofText t = .ok c)
    (hcategory : c.category = .attribute) (hp : Parts.ofText? t = some p) :
    ofText t = .ok (some (ofParts p)) := by
  simp only [ofText, Token.isEmpty_of_classification hc, hc, hcategory, hp, Bool.false_eq_true, if_false,
    if_true]

end Attribute

end SelectorSyntax
