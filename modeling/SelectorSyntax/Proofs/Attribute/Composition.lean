import SelectorSyntax.Proofs.Attribute.Parts
import SelectorSyntax.Proofs.Pattern.FirstTrail
import SelectorSyntax.Proofs.Text.Cutting

/-!
# Attribute selectors from their parts

An attribute selector is written from a namespace, a name, an operator and a value with blanks between them
(`Attribute.Composition`), and taken apart again it gives these parts (`Attribute.Composition.ofText_text`).

One condition is needed.  A blank after an identifier that ends with a hexadecimal escape is part of the escape, so the
blanks after a name must not be such that a longer name is read (`Attribute.EndsBefore`).  Then the name is the longest
one at its place.  The bar after a name belongs to a namespace or to the operator `|=`, and in the second case no name
follows it.
-/

namespace SelectorSyntax

open SelectorSyntax.Derivation

/-! ### Where names and values end -/

namespace Derivation

variable {i w s t v : Text} {c : Char}

/-- The characters that end a name wherever they stand. -/
def IsStop (c : Char) : Prop :=
  ¬ (c = '\\' ∨ IsNameInner c)

instance : DecidablePred IsStop := fun _ => inferInstanceAs (Decidable (¬ _))

theorem IsStop.not_isBlank (h : IsStop c) : ¬ Text.isBlank c :=
  fun hblank => h (.inr (.inr hblank))

/-- An identifier that does not go on into the blanks after it is the longest one. -/
theorem longest_ident_of_blanks (hi : Ident i) (hw : Blanks w) (hends : ∀ z, z ≠ [] → z <+: w → ¬ Ident (i ++ z))
    (hc : IsStop c) : Longest Ident (i ++ (w ++ c :: s)) i := by
  cases w with
  | nil => exact longest_ident_of_stop hi hc
  | cons b w =>
    have hblank : Text.isBlank b := hw b (by simp)
    refine longest_of_eq_nil hi fun z hz hzt => ?_
    cases z with
    | nil => rfl
    | cons d z =>
      obtain rfl := (List.cons_prefix_cons.1 hzt).1
      -- a name that goes on after the blank could have ended with it
      have hmany := many_nameChar_of_blank hi.escaping hblank hz.many_nameChar
      have hlonger : Ident (i ++ [d]) := hi.of_prefix hmany (List.prefix_append ..)
      exact absurd hlonger (hends [d] (by simp) (by simp))

theorem longest_blanks (hw : Blanks w) (hc : ¬ Text.isBlank c) : Longest Blanks (w ++ c :: s) w := by
  refine longest_of_eq_nil hw fun z hz hzs => ?_
  cases z with
  | nil => rfl
  | cons d z =>
    obtain rfl := (List.cons_prefix_cons.1 hzs).1
    exact absurd (hz d (by simp)) hc

theorem QuotedString.exists_quote (h : QuotedString t) : ∃ q u, IsQuote q ∧ Escaping (· ≠ q) u ∧
    t = q :: (u ++ [q]) := by
  rcases h with h | h
  · exact ⟨_, _, .inl rfl, escaping_of_many_stringPart (.inl rfl) h, rfl⟩
  · exact ⟨_, _, .inr rfl, escaping_of_many_stringPart (.inr rfl) h, rfl⟩

theorem prefixFree_quotedString : PrefixFree QuotedString := by
  intro x y hx hxy
  obtain ⟨q, u, hq, hu, rfl⟩ := hx.exists_quote
  obtain ⟨q', u', -, hu', heq⟩ := hxy.exists_quote
  rw [List.cons_append, List.append_assoc, List.singleton_append] at heq
  obtain ⟨rfl, heq⟩ := List.cons.inj heq
  have hstop : ¬ (q = '\\' ∨ q ≠ q) := by
    rintro (h | h)
    · exact hq.ne_backslash h
    · exact h rfl
  obtain rfl := hu.eq_of_cut hu' hstop hstop heq
  exact (List.cons.inj (List.append_cancel_left heq)).2

/-- Identifiers and strings do not begin alike. -/
theorem Ident.not_prefix_of_quoted (hi : Ident i) (hv : QuotedString v) : ¬ (i <+: t ∧ v <+: t) := by
  rintro ⟨⟨r, rfl⟩, hvt⟩
  obtain ⟨c, u, rfl, hc⟩ := hi.head
  obtain ⟨q, u', hq, -, rfl⟩ := hv.exists_quote
  obtain rfl := (List.cons_prefix_cons.1 hvt).1
  rcases hq with rfl | rfl <;> exact absurd hc (by decide)

theorem longest_value_of_ident (h : Longest Ident t i) : Longest AttributeValue t i := by
  refine ⟨.ident h.holds, h.isPrefix, fun y hy hyt => ?_⟩
  rcases hy with hy | hy
  · exact h.greatest y hy hyt
  · exact absurd ⟨h.isPrefix, hyt⟩ (h.holds.not_prefix_of_quoted hy)

theorem longest_value_of_string (hv : QuotedString v) (hvt : v <+: t) : Longest AttributeValue t v := by
  refine ⟨.string hv, hvt, fun y hy hyt => ?_⟩
  rcases hy with hy | hy
  · exact absurd ⟨hyt, hvt⟩ (hy.not_prefix_of_quoted hv)
  · exact (prefixFree_quotedString.longest hv hvt).greatest y hy hyt

theorem AttributeValue.head (h : AttributeValue t) : ∃ c u, t = c :: u ∧ ¬ Text.isBlank c := by
  rcases h with h | h
  · obtain ⟨c, u, rfl, hc⟩ := h.head
    refine ⟨c, u, rfl, fun hblank => ?_⟩
    exact not_isCombinatorChar_of_head (.inl (.inr (.inr hc))) (.inr (.inr (.inr hblank)))
  · obtain ⟨q, u, hq, -, rfl⟩ := h.exists_quote
    refine ⟨q, u ++ [q], rfl, ?_⟩
    rcases hq with rfl | rfl <;> decide

theorem prefixFree_attributeOperator : PrefixFree AttributeOperator := by
  intro x y hx hxy
  generalize hz : x ++ y = z at hxy
  rcases hx with _ | _ | _ | _ | _ | _ <;> rcases hxy with _ | _ | _ | _ | _ | _ <;> simp_all

end Derivation

/-! ### What the patterns of the parts take -/

namespace Rule

open Pattern Lexeme

theorem takesLongest_char (c : Char) : (char c).TakesLongest (· = [c]) :=
  .of_prefixFree (matches_char c) rfl rfl (prefixFree_eq [c])

theorem takesLongest_blanks : optionalBlanks.TakesLongest Blanks :=
  ⟨matches_optionalBlanks, rfl, rfl, longestFirst_rounds_blank 0⟩

theorem takesLongest_ident : ident.TakesLongest Ident :=
  ⟨matches_ident, by decide +kernel, by decide +kernel, longestFirst_ident⟩

theorem takesLongest_qualifier : namespaceQualifier.TakesLongest NamespaceQualifier :=
  .of_prefixFree matches_namespaceQualifier (by decide +kernel) (by decide +kernel) prefixFree_namespaceQualifier

theorem takesLongest_operator : attributeOperator.TakesLongest AttributeOperator :=
  .of_prefixFree matches_attributeOperator (by decide +kernel) (by decide +kernel) prefixFree_attributeOperator

theorem takesLongest_value : (Pattern.alt ident string).TakesLongest AttributeValue := by
  refine ⟨matches_attributeValue, by decide +kernel, by decide +kernel, ?_⟩
  have hstring : string.LongestFirst := longestFirst_of_prefixFree (matches_string ▸ prefixFree_quotedString)
  refine longestFirst_ident.alt hstring fun t x y hx hy hyt => ?_
  rw [matches_ident] at hx
  rw [matches_string] at hy
  exact absurd ⟨hx.isPrefix, hyt⟩ (hx.holds.not_prefix_of_quoted hy)

end Rule

namespace Attribute

/-! ### Operators -/

namespace Operator

theorem attributeOperator_symbol (o : Operator) : AttributeOperator o.symbol.toList := by
  cases o with
  | equals => exact .equal
  | includes => exact .includes
  | dashMatch => exact .dash
  | leadMatch => exact .lead
  | endMatch => exact .ending
  | substringMatch => exact .substring

theorem exists_symbol {x : Text} (h : AttributeOperator x) : ∃ o : Operator, o.symbol.toList = x := by
  cases h with
  | equal => exact ⟨equals, rfl⟩
  | includes => exact ⟨includes, rfl⟩
  | dash => exact ⟨dashMatch, rfl⟩
  | lead => exact ⟨leadMatch, rfl⟩
  | ending => exact ⟨endMatch, rfl⟩
  | substring => exact ⟨substringMatch, rfl⟩

theorem ofSymbol?_symbol (o : Operator) : ofSymbol? o.symbol.toList = some o := by
  cases o <;> decide

end Operator

/-! ### Compositions -/

/-- No longer identifier than `i` goes on into the text `w` after it. -/
def EndsBefore (i w : Text) : Prop :=
  ∀ z, z ≠ [] → z <+: w → Production.ident.accepts (i ++ z) = false

instance (i w : Text) : Decidable (EndsBefore i w) :=
  decidable_of_iff (∀ z ∈ w.inits, z ≠ [] → Production.ident.accepts (i ++ z) = false) <| by
    simp only [EndsBefore, List.mem_inits]
    exact forall_congr' fun _ => forall_comm

/-- An operator and a value as they are written, with the blanks after each of them. -/
structure Composition.Test where
  operator : Operator
  afterOperator : Text
  raw : Text
  afterValue : Text
  blanks_afterOperator : Blanks afterOperator
  blanks_afterValue : Blanks afterValue
  isValue : Production.ident.accepts raw = true ∨ Production.string.accepts raw = true
  endsBefore : EndsBefore raw afterValue

/-- The parts of an attribute selector as they are written, with the blanks between them. -/
structure Composition where
  beforeName : Text
  qualifier : Option Text
  name : Text
  afterName : Text
  test : Option Composition.Test
  blanks_beforeName : Blanks beforeName
  blanks_afterName : Blanks afterName
  isQualifier : ∀ n ∈ qualifier, n = [] ∨ n = ['*'] ∨ Production.ident.accepts n = true
  isName : Production.ident.accepts name = true
  endsBefore : EndsBefore name afterName

namespace Composition

def Test.text (t : Test) : Text :=
  t.operator.symbol.toList ++ t.afterOperator ++ t.raw ++ t.afterValue

/-- The value that a test compares with, which is a string without its quotes. -/
def Test.value (t : Test) : Text :=
  if Production.string.accepts t.raw then t.raw.tail.dropLast else t.raw

/-- The attribute selector. -/
def text (c : Composition) : Text :=
  '[' :: (c.beforeName ++ (c.qualifier.map (· ++ ['|'])).getD [] ++ c.name ++ c.afterName ++
    (c.test.map Test.text).getD [] ++ [']'])

/-- What the attribute selector says. -/
def toAttribute (c : Composition) : Attribute where
  qualifier := c.qualifier
  name := c.name
  operator := c.test.map (·.operator)
  value := c.test.map (·.value)

/-! ### The first match of a composition -/

section

open Pattern Lexeme Rule

/-- The trail of a test. -/
def Test.trail (t : Test) : List Event :=
  Event.named "operator" (some t.operator.symbol.toList) ++ (Event.reads t.afterOperator ++
    (Event.named "value" (some t.raw) ++ Event.reads t.afterValue))

/-- What the marked rule has for a test. -/
def testPattern : Pattern :=
  Pattern.concat [part "operator" attributeOperator, optionalBlanks, part "value" (.alt ident string), optionalBlanks]

theorem not_ident_of_endsBefore {i w : Text} (h : EndsBefore i w) (z : Text) (hne : z ≠ []) (hz : z <+: w) :
    ¬ Ident (i ++ z) := by
  intro hident
  have hacc := (Production.accepts_iff_derives .ident _).2 hident
  rw [h z hne hz] at hacc
  cases hacc

theorem leads_closing : Leads [char ']', atEnd] [']'] (Event.reads [']']) [] := by
  have hlongest : Longest (· = [']']) ([']'] ++ []) [']'] := (prefixFree_eq [']']).longest rfl (List.prefix_append ..)
  simpa using Leads.longest (takesLongest_char ']') hlongest leads_atEnd

namespace Test

variable (t : Test)

theorem attributeValue : AttributeValue t.raw := by
  rcases t.isValue with h | h
  · exact .ident ((Production.accepts_iff_derives .ident _).1 h)
  · exact .string ((Production.accepts_iff_derives .string _).1 h)

theorem longest_raw (s : Text) : Longest AttributeValue (t.raw ++ (t.afterValue ++ ']' :: s)) t.raw := by
  rcases t.isValue with h | h
  · have hident : Ident t.raw := (Production.accepts_iff_derives .ident _).1 h
    have hends := not_ident_of_endsBefore t.endsBefore
    exact longest_value_of_ident (longest_ident_of_blanks hident t.blanks_afterValue hends (by decide))
  · have hstring : QuotedString t.raw := (Production.accepts_iff_derives .string _).1 h
    exact longest_value_of_string hstring (List.prefix_append ..)

theorem leads : Leads [testPattern, char ']', atEnd] (t.text ++ [']']) (t.trail ++ Event.reads [']']) [] := by
  have hoperator : Longest AttributeOperator (t.operator.symbol.toList ++ (t.afterOperator ++ (t.raw ++
      (t.afterValue ++ [']'])))) t.operator.symbol.toList :=
    prefixFree_attributeOperator.longest t.operator.attributeOperator_symbol (List.prefix_append ..)
  have hbefore : Longest Blanks (t.afterOperator ++ (t.raw ++ (t.afterValue ++ [']']))) t.afterOperator := by
    obtain ⟨c, u, hraw, hc⟩ := t.attributeValue.head
    rw [hraw]
    exact longest_blanks t.blanks_afterOperator hc
  have hafter : Longest Blanks (t.afterValue ++ [']']) t.afterValue :=
    longest_blanks t.blanks_afterValue (by decide)
  have hvalue := Leads.part "value" takesLongest_value (t.longest_raw [])
    (.longest takesLongest_blanks hafter leads_closing)
  have hleads := Leads.part "operator" takesLongest_operator hoperator (.longest takesLongest_blanks hbefore hvalue)
  simp only [text, trail, List.append_assoc]
  exact Leads.concat hleads

end Test

/-- A test, or none, and the bracket after it. -/
theorem leads_test (test : Option Test) : Leads [optional testPattern, char ']', atEnd]
    ((test.map Test.text).getD [] ++ [']']) ((test.map Test.trail).getD [] ++ Event.reads [']']) [] := by
  cases test with
  | none =>
    refine .absent (.concat (.head (by decide +kernel) ?_)) leads_closing
    intro x hx hprefix
    rw [matches_part, matches_attributeOperator] at hx
    rcases hx with _ | _ | _ | _ | _ | _ <;> simp at hprefix
  | some t => exact .present t.leads

theorem exists_stop (test : Option Test) : ∃ c s, (test.map Test.text).getD [] ++ [']'] = c :: s ∧ IsStop c := by
  cases test with
  | none => exact ⟨']', [], rfl, by decide⟩
  | some t =>
    have hstop : ∀ o : Operator, ∃ c s, o.symbol.toList = c :: s ∧ IsStop c := by
      intro o
      cases o <;> exact ⟨_, _, rfl, by decide⟩
    obtain ⟨c, s, hsymbol, hc⟩ := hstop t.operator
    refine ⟨c, s ++ (t.afterOperator ++ (t.raw ++ (t.afterValue ++ [']']))), ?_, hc⟩
    simp [Test.text, hsymbol]

/-- Where a bar begins a test, the rest of the operator comes after it. -/
theorem exists_equal_of_bar {test : Option Test} {r : Text}
    (h : (test.map Test.text).getD [] ++ [']'] = '|' :: r) : ∃ s, r = '=' :: s := by
  cases test with
  | none => simp at h
  | some t =>
    cases ho : t.operator <;> simp [Test.text, ho, Operator.symbol] at h
    exact ⟨_, h.symm⟩

variable (c : Composition)

theorem ident_name : Ident c.name :=
  (Production.accepts_iff_derives .ident _).1 c.isName

/-- What comes after the name. -/
def afterwards : Text :=
  c.afterName ++ ((c.test.map Test.text).getD [] ++ [']'])

theorem longest_name : Longest Ident (c.name ++ c.afterwards) c.name := by
  obtain ⟨d, s, hrest, hd⟩ := exists_stop c.test
  rw [afterwards, hrest]
  exact longest_ident_of_blanks c.ident_name c.blanks_afterName (not_ident_of_endsBefore c.endsBefore) hd

theorem leads_name : Leads [part "name" ident, optionalBlanks, optional testPattern, char ']', atEnd]
    (c.name ++ c.afterwards) (Event.named "name" (some c.name) ++ (Event.reads c.afterName ++
      ((c.test.map Test.trail).getD [] ++ Event.reads [']']))) [] := by
  have hblanks : Longest Blanks c.afterwards c.afterName := by
    obtain ⟨d, s, hrest, hd⟩ := exists_stop c.test
    rw [afterwards, hrest]
    exact longest_blanks c.blanks_afterName hd.not_isBlank
  exact .part "name" takesLongest_ident c.longest_name (.longest takesLongest_blanks hblanks (leads_test c.test))

/-- A namespace that could be read where there is none ends with the bar of the operator. -/
theorem exists_equal_of_qualifier {x r : Text} (hx : NamespaceQualifier x) (heq : c.name ++ c.afterwards = x ++ r) :
    ∃ s, r = '=' :: s := by
  obtain ⟨d, u, hname, hd⟩ := c.ident_name.head
  rcases hx with _ | @⟨i, hi⟩ | _
  · rw [hname] at heq
    obtain rfl := (List.cons.inj heq).1
    exact absurd hd (by decide)
  · -- the identifier is the name, because it is not part of a longer one
    have hi_prefix : i <+: c.name ++ c.afterwards := ⟨'|' :: r, by rw [heq]; simp⟩
    obtain ⟨z, hz⟩ := c.longest_name.prefix_of hi hi_prefix
    have hrest : z ++ c.afterwards = '|' :: r := by
      rw [← hz] at heq
      simpa using heq
    cases z with
    | cons e z =>
      obtain rfl := (List.cons.inj hrest).1
      have hescaping := c.ident_name.escaping
      rw [← hz] at hescaping
      exact absurd (hi.escaping.allowed_of_append hescaping) (by decide)
    | nil =>
      rw [List.nil_append, afterwards] at hrest
      cases hblanks : c.afterName with
      | nil =>
        rw [hblanks] at hrest
        exact exists_equal_of_bar hrest
      | cons b w =>
        rw [hblanks] at hrest
        obtain rfl := (List.cons.inj hrest).1
        have hbar : Text.isBlank '|' := c.blanks_afterName '|' (by simp [hblanks])
        exact absurd hbar (by decide)
  · rw [hname] at heq
    obtain rfl := (List.cons.inj heq).1
    exact absurd hd (by decide)

theorem namespaceQualifier_of_isQualifier {n : Text} (hn : n = [] ∨ n = ['*'] ∨ Production.ident.accepts n = true) :
    NamespaceQualifier (n ++ ['|']) := by
  rcases hn with rfl | rfl | hn
  · exact .empty
  · exact .any
  · exact .ident ((Production.accepts_iff_derives .ident _).1 hn)

theorem leads_qualifier :
    Leads [optional (part "qualifier" namespaceQualifier), part "name" ident, optionalBlanks, optional testPattern,
        char ']', atEnd]
      ((c.qualifier.map (· ++ ['|'])).getD [] ++ (c.name ++ c.afterwards))
      (Event.named "qualifier" (c.qualifier.map (· ++ ['|'])) ++ (Event.named "name" (some c.name) ++
        (Event.reads c.afterName ++ ((c.test.map Test.trail).getD [] ++ Event.reads [']'])))) [] := by
  cases hq : c.qualifier with
  | none =>
    refine .absent (.cons (by decide +kernel) ?_) c.leads_name
    intro x r hx heq
    rw [matches_part, matches_namespaceQualifier] at hx
    obtain ⟨s, rfl⟩ := c.exists_equal_of_qualifier hx heq
    refine .head (by decide +kernel) ?_
    intro i hi hprefix
    rw [matches_part, matches_ident] at hi
    obtain ⟨d, u, rfl, hd⟩ := hi.head
    obtain rfl := (List.cons_prefix_cons.1 hprefix).1
    exact absurd hd (by decide)
  | some n =>
    have hn := namespaceQualifier_of_isQualifier (c.isQualifier n hq)
    exact .present (.part "qualifier" takesLongest_qualifier
      (prefixFree_namespaceQualifier.longest hn (List.prefix_append ..)) c.leads_name)

theorem maybe_qualifier : Maybe NamespaceQualifier ((c.qualifier.map (· ++ ['|'])).getD []) := by
  cases hq : c.qualifier with
  | none => exact .absent
  | some n => exact .present (namespaceQualifier_of_isQualifier (c.isQualifier n hq))

theorem leads_text : Leads [attribParts, atEnd] c.text (Event.reads ['['] ++ (Event.reads c.beforeName ++
    (Event.named "qualifier" (c.qualifier.map (· ++ ['|'])) ++ (Event.named "name" (some c.name) ++
      (Event.reads c.afterName ++ ((c.test.map Test.trail).getD [] ++ Event.reads [']'])))))) [] := by
  have hblanks : Longest Blanks (c.beforeName ++ ((c.qualifier.map (· ++ ['|'])).getD [] ++ (c.name ++ c.afterwards)))
      c.beforeName := by
    -- the name with its namespace is a type selector, which begins with no blank
    obtain ⟨d, u, hhead, hd⟩ := head_of_element (.inl (.mk c.maybe_qualifier c.ident_name))
    have hd : ¬ Text.isBlank d := fun h => not_isCombinatorChar_of_head (.inl hd) (.inr (.inr (.inr h)))
    have hrest : (c.qualifier.map (· ++ ['|'])).getD [] ++ (c.name ++ c.afterwards) = d :: (u ++ c.afterwards) := by
      rw [← List.append_assoc, hhead, List.cons_append]
    rw [hrest]
    exact longest_blanks c.blanks_beforeName hd
  have hopening : Longest (· = ['[']) (['['] ++ (c.beforeName ++ ((c.qualifier.map (· ++ ['|'])).getD [] ++
      (c.name ++ c.afterwards)))) ['['] :=
    (prefixFree_eq ['[']).longest rfl (List.prefix_append ..)
  have hleads := Leads.longest (takesLongest_char '[') hopening
    (.longest takesLongest_blanks hblanks c.leads_qualifier)
  have htext : c.text = ['['] ++ (c.beforeName ++ ((c.qualifier.map (· ++ ['|'])).getD [] ++
      (c.name ++ c.afterwards))) := by
    simp [text, afterwards]
  rw [htext]
  exact Leads.concat hleads

/-- The marked parts are those that the selector was written from. -/
theorem parts_text : Parts.ofText? c.text = some
    ⟨c.qualifier.map (· ++ ['|']), c.name, c.test.map (·.operator.symbol.toList), c.test.map (·.raw)⟩ := by
  rw [Parts.ofText?, whole?_of_leads c.leads_text]
  cases c.qualifier <;> cases c.test <;> simp [Test.trail]

end

/-! ### What a composition says -/

theorem attributeTest_text (test : Option Test) : Maybe AttributeTest ((test.map Test.text).getD []) := by
  cases test with
  | none => exact .absent
  | some t =>
    exact .present (.mk t.operator.attributeOperator_symbol t.blanks_afterOperator t.attributeValue t.blanks_afterValue)

theorem attrib_text (c : Composition) : Attrib c.text :=
  .mk c.blanks_beforeName c.maybe_qualifier c.ident_name c.blanks_afterName (attributeTest_text c.test)

theorem unquote_raw (t : Test) : unquote t.raw = t.value := by
  rw [Test.value]
  split
  · rename_i hstring
    obtain ⟨q, u, hq, -, hraw⟩ := QuotedString.exists_quote ((Production.accepts_iff_derives .string _).1 hstring)
    have hbetween : Text.dropEnd? q (u ++ [q]) = some u := Text.dropEnd?_eq_some_iff.2 rfl
    rw [hraw]
    rcases hq with rfl | rfl <;> simp [unquote, between?, hbetween]
  · rename_i hstring
    have hident := t.isValue.resolve_right hstring
    obtain ⟨d, u, hraw, hd⟩ := Ident.head ((Production.accepts_iff_derives .ident _).1 hident)
    have hquote : d ≠ '"' ∧ d ≠ '\'' := by
      constructor <;> rintro rfl <;> exact absurd hd (by decide)
    simp [hraw, unquote, between?, hquote]

theorem ofParts_text (c : Composition) :
    ofParts ⟨c.qualifier.map (· ++ ['|']), c.name, c.test.map (·.operator.symbol.toList), c.test.map (·.raw)⟩ =
      c.toAttribute := by
  have hqualifier (n : Text) : Text.dropEnd? '|' (n ++ ['|']) = some n := Text.dropEnd?_eq_some_iff.2 rfl
  cases hq : c.qualifier <;> cases ht : c.test <;>
    simp [ofParts, toAttribute, Parts.namespaceName, hq, ht, hqualifier, unquote_raw, Operator.ofSymbol?_symbol]

/-- Taken apart, an attribute selector gives what it was written from. -/
theorem ofText_text (c : Composition) : ofText c.text = .ok (some c.toAttribute) := by
  have hkind : Token.IsKind .attrib c.text := Token.isKind_of_ne_pseudo (by decide) (by decide) c.attrib_text
  rw [ofText_of_parts (Token.classification_of_categoryAs hkind rfl) rfl c.parts_text, ofParts_text]

end Composition

/-! ### What is taken apart -/

variable {t : Text} {k : Classification}

theorem isSome_operator_of_spells {p : Parts} (h : p.Spells t) :
    (ofParts p).operator.isSome = (ofParts p).value.isSome := by
  rcases h with ⟨-, -, -, -⟩ | ⟨-, -, -, -, ho, -, -, -⟩
  · rfl
  · obtain ⟨o, rfl⟩ := Operator.exists_symbol ho
    simp [ofParts, Operator.ofSymbol?_symbol]

theorem exists_ofText (hk : Classification.ofText t = .ok k) (hcategory : k.category = .attribute) :
    ∃ a, ofText t = .ok (some a) ∧ a.operator.isSome = a.value.isSome := by
  have hkind := (Token.isKind_of_classification hk).1
  rw [hcategory] at hkind
  obtain ⟨p, hp, hspells⟩ := Parts.exists_spells hkind.derives
  exact ⟨_, ofText_of_parts hk hcategory hp, isSome_operator_of_spells hspells⟩

theorem ofText_of_wrongCategory (hk : Classification.ofText t = .ok k) (hcategory : k.category ≠ .attribute) :
    ofText t = .error (.wrongCategory .attribute k.category t) := by
  simp [ofText, Token.isEmpty_of_classification hk, hk, hcategory]

theorem ofText_of_error {e : SelectorError} (hne : t ≠ []) (h : Classification.ofText t = .error e) :
    ofText t = .error (.noMatch t) := by
  obtain rfl := Token.eq_noMatch_of_classification h
  simp [ofText, hne, h]

/-- Taking apart undoes writing, and what is taken apart is what the classifier takes for an attribute selector.  The
classifier also tells why any other text is refused.  No operator comes without a value. -/
theorem ofText_undoes_text :
    (∀ c : Composition, ofText c.text = .ok (some c.toAttribute)) ∧
    ∀ t : Text, t ≠ [] →
      ((∃ a, ofText t = .ok (some a)) ↔ ∃ n, Classification.ofText t = .ok ⟨.attribute, n⟩) ∧
      (∀ wanted found s, ofText t = .error (.wrongCategory wanted found s) ↔
        wanted = .attribute ∧ s = t ∧ found ≠ .attribute ∧ ∃ n, Classification.ofText t = .ok ⟨found, n⟩) ∧
      (∀ s, ofText t = .error (.noMatch s) ↔ s = t ∧ ∃ e, Classification.ofText t = .error e) ∧
      ∀ a, ofText t = .ok (some a) → (a.operator.isSome ↔ a.value.isSome) := by
  refine ⟨Composition.ofText_text, fun t hne => ?_⟩
  cases hk : Classification.ofText t with
  | error e =>
    rw [ofText_of_error hne hk]
    refine ⟨by simp, by simp, fun s => ?_, by simp⟩
    simp only [Except.error.injEq, SelectorError.noMatch.injEq, exists_eq', and_true]
    exact eq_comm
  | ok k =>
    obtain ⟨category, n⟩ := k
    by_cases hcategory : category = .attribute
    · obtain ⟨a, ha, hparts⟩ := exists_ofText hk hcategory
      rw [ha]
      refine ⟨by simp [hcategory], fun wanted found s => ?_, by simp, fun b hb => ?_⟩
      · simp only [reduceCtorEq, false_iff]
        rintro ⟨-, -, hfound, n', hn'⟩
        cases hn'
        exact hfound hcategory
      · cases hb
        rw [hparts]
    · rw [ofText_of_wrongCategory hk hcategory]
      refine ⟨by simp [hcategory], fun wanted found s => ?_, by simp, by simp⟩
      constructor
      · intro h
        cases h
        exact ⟨rfl, rfl, hcategory, n, rfl⟩
      · rintro ⟨rfl, rfl, -, n', hn'⟩
        cases hn'
        rfl

/-- The first blank after the escape is part of the name, the second is not; the bar after them is part of the operator,
and the bracket part of the value. -/
theorem ofText_undoes_text_of_escape :
    let test : Composition.Test := {
      operator := .dashMatch, afterOperator := ['\t'], raw := "']\"'".toList, afterValue := ['\n']
      blanks_afterOperator := by decide, blanks_afterValue := by decide
      isValue := by decide +kernel, endsBefore := by decide +kernel }
    let c : Composition := {
      beforeName := [' '], qualifier := some "svg".toList, name := "\\62 ".toList, afterName := [' '], test := some test
      blanks_beforeName := by decide, blanks_afterName := by decide, isQualifier := by decide +kernel
      isName := by decide +kernel, endsBefore := by decide +kernel }
    let t := "[ svg|\\62  |=\t']\"'\n]".toList
    let a : Attribute := ⟨some "svg".toList, "\\62 ".toList, some .dashMatch, some "]\"".toList⟩
    c.text = t ∧ t ≠ [] ∧ ofText t = .ok (some a) ∧ (∃ n, Classification.ofText t = .ok ⟨.attribute, n⟩) ∧
      (a.operator.isSome ↔ a.value.isSome) := by
  intro test c t a
  have htext : c.text = t := by decide +kernel
  have hne : t ≠ [] := by decide
  have hattribute : c.toAttribute = a := by decide +kernel
  obtain ⟨hundo, hevery⟩ := ofText_undoes_text
  obtain ⟨hcategory, -, -, hparts⟩ := hevery t hne
  have ha : ofText t = .ok (some a) := htext ▸ hattribute ▸ hundo c
  exact ⟨htext, hne, ha, hcategory.1 ⟨a, ha⟩, hparts a ha⟩

end Attribute

end SelectorSyntax
