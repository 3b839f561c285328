import SelectorSyntax.Proofs.Pattern.Trail
import SelectorSyntax.Proofs.Pseudo.Vendor
import SelectorSyntax.Pseudo

/-!
# The parts of a pseudo

The vendor's part and the rest come from a marked rule, so they are always those of the grammar.  The name and the
argument come from cuts at the first parenthesis.  Where that parenthesis is part of the name, there is a backslash
before it which the cut leaves at the end (`Escaping.loneBackslash_of_cut`); where it is not, the cuts fall where the
grammar has them.  So the parts make up the pseudo again, exactly if the name does not end with a backslash that
escapes nothing (`Pseudo.makesUp_iff`).
-/

namespace SelectorSyntax

open SelectorSyntax.Derivation

/-- What is before a character that can only be escaped ends with the backslash of the escape. -/
theorem Escaping.loneBackslash_of_cut {S : Char → Prop} {u v : Text} {c : Char} (h : Escaping S (u ++ c :: v))
    (hc : ¬ (c = '\\' ∨ S c)) : LoneBackslash u := by
  generalize ht : u ++ c :: v = t at h
  induction h generalizing u with
  | nil => simp at ht
  | @plain d t hne hd _ ih =>
    cases u with
    | nil =>
      obtain rfl := (List.cons.inj ht).1
      exact absurd (.inr hd) hc
    | cons e u =>
      rw [List.cons_append, List.cons.injEq] at ht
      obtain ⟨rfl, ht⟩ := ht
      exact .after (u := [e]) (.plain hne hd .nil) (ih ht)
  | @pair d t _ ih =>
    rcases u with _ | ⟨e, _ | ⟨e', u⟩⟩
    · exact absurd (.inl (List.cons.inj ht).1) hc
    · obtain rfl := (List.cons.inj ht).1
      exact ⟨[], .nil, rfl⟩
    · rw [List.cons_append, List.cons_append, List.cons.injEq, List.cons.injEq] at ht
      obtain ⟨rfl, rfl, ht⟩ := ht
      exact .after (S := S) (u := ['\\', e']) (.pair .nil) (ih ht)

/-! ### The vendor's part -/

namespace Derivation

/-- `[-_] nmstart nmchar* '-'` -/
inductive VendorMark : Text → Prop
  | mk {s u : Text} {m : Char} : m = '-' ∨ m = '_' → NameStart s → Many NameChar u → VendorMark (m :: (s ++ u ++ ['-']))

/-- `nmstart nmchar*` -/
inductive VendorRest : Text → Prop
  | mk {s u : Text} : NameStart s → Many NameChar u → VendorRest (s ++ u)

variable {t c v r : Text}

/-- Before its last hyphen a mark has characters of names. -/
theorem VendorMark.exists_many_nameChar (h : VendorMark t) : ∃ w, Many NameChar w ∧ t = w ++ ['-'] := by
  obtain @⟨s, u, m, hm, hs, hu⟩ := h
  have hmark : NameChar [m] := by
    rcases hm with rfl | rfl
    · exact .hyphen
    · exact .letter (.inl rfl)
  exact ⟨m :: (s ++ u), .cons hmark (.cons hs.nameChar hu), rfl⟩

theorem VendorMark.many_nameChar (h : VendorMark t) : Many NameChar t := by
  obtain ⟨w, hw, rfl⟩ := h.exists_many_nameChar
  exact hw.append (.one .hyphen)

theorem VendorRest.many_nameChar (h : VendorRest t) : Many NameChar t := by
  obtain ⟨hs, hu⟩ := h
  exact .cons hs.nameChar hu

theorem vendorPseudo_iff : VendorPseudo t ↔ ∃ c v r, Colons c ∧ VendorMark v ∧ VendorRest r ∧ t = c ++ (v ++ r) := by
  constructor
  · intro h
    obtain ⟨hc, hm, hs, hu, hs', hu'⟩ := h
    exact ⟨_, _, _, hc, .mk hm hs hu, .mk hs' hu', by simp⟩
  · rintro ⟨c, v, r, hc, ⟨hm, hs, hu⟩, ⟨hs', hu'⟩, rfl⟩
    simpa using VendorPseudo.mk hc hm hs hu hs' hu'

theorem ident_of_vendor (hv : VendorMark v) (hr : VendorRest r) : Ident (v ++ r) := by
  obtain @⟨s, u, m, hm, hs, hu⟩ := hv
  have hrest : Many NameChar (u ++ '-' :: r) := hu.append (.cons .hyphen hr.many_nameChar)
  rw [List.cons_append, List.append_assoc, List.append_assoc, List.singleton_append]
  rcases hm with rfl | rfl
  · exact .mk (.present rfl) hs hrest
  · exact .mk .absent (.letter (.inl rfl)) (.cons hs.nameChar hrest)

end Derivation

namespace Rule

open Pattern Lexeme

theorem matches_vendorMark : (concat [oneOf "-_", nameStart, .rounds false 0 none nameChar, char '-']).Matches =
    VendorMark := by
  have hlazy : (Pattern.rounds false 0 none nameChar).Matches = Many NameChar := by
    rw [← matches_nameChar, ← matches_star]
    rfl
  ext t
  simp only [concat, matches_seq, matches_oneOf, matches_nameStart, hlazy, matches_char]
  constructor
  · rintro ⟨_, _, ⟨m, hm, rfl⟩, ⟨s, _, hs, ⟨u, _, hu, rfl, rfl⟩, rfl⟩, rfl⟩
    simpa using VendorMark.mk (by simpa using hm) hs hu
  · intro h
    obtain @⟨s, u, m, hm, hs, hu⟩ := h
    have hm : m ∈ "-_".toList := by simpa using hm
    exact ⟨_, _, ⟨m, hm, rfl⟩, ⟨s, _, hs, ⟨u, _, hu, rfl, rfl⟩, rfl⟩, by simp⟩

theorem matches_vendorRest : (Pattern.seq nameStart (star nameChar)).Matches = VendorRest := by
  ext t
  simp only [matches_seq, matches_nameStart, matches_star, matches_nameChar]
  constructor
  · rintro ⟨s, u, hs, hu, rfl⟩
    exact .mk hs hu
  · intro h
    obtain ⟨hs, hu⟩ := h
    exact ⟨_, _, hs, hu, rfl⟩

theorem matches_vendorParts : vendorParts.Matches = VendorPseudo := by
  have hvendor := (matches_part "vendor" _).trans matches_vendorMark
  have hrest := (matches_part "rest" _).trans matches_vendorRest
  ext t
  rw [vendorPseudo_iff]
  change (Pattern.seq colons (.seq (part "vendor" _) (part "rest" _))).Matches t ↔ _
  simp only [matches_seq, matches_colons, hvendor, hrest]
  constructor
  · rintro ⟨c, _, hc, ⟨v, r, hv, hr, rfl⟩, rfl⟩
    exact ⟨c, v, r, hc, hv, hr, rfl⟩
  · rintro ⟨c, v, r, hc, hv, hr, rfl⟩
    exact ⟨c, _, hc, ⟨v, r, hv, hr, rfl⟩, rfl⟩

theorem traces_vendorParts {es : List Event} (h : vendorParts.Traces es) : ∃ c v r, Derivation.Colons c ∧ VendorMark v ∧
    VendorRest r ∧ es = Event.reads c ++ (Event.named "vendor" (some v) ++ Event.named "rest" (some r)) := by
  obtain ⟨_, _, hcolons, h₁, rfl⟩ := traces_seq h
  obtain ⟨_, _, hvendor, hrest, rfl⟩ := traces_seq h₁
  obtain ⟨c, hc, rfl⟩ := traces_of_unmarked matches_colons rfl rfl hcolons
  obtain ⟨v, hv, rfl⟩ := traces_part matches_vendorMark (by decide +kernel) (by decide +kernel) hvendor
  obtain ⟨r, hr, rfl⟩ := traces_part matches_vendorRest (by decide +kernel) (by decide +kernel) hrest
  exact ⟨c, v, r, hc, hv, hr, rfl⟩

end Rule

namespace Pseudo

variable {t : Text}

namespace VendorParts

/-- What comes out of a trail of the marked rule. -/
theorem exists_of_traces {es : List Event} (h : Rule.vendorParts.Traces es) : ∃ c v r, Derivation.Colons c ∧
    VendorMark v ∧ VendorRest r ∧ Event.part? "vendor" es = some v ∧ Event.part? "rest" es = some r ∧
      Event.readText es = c ++ (v ++ r) := by
  obtain ⟨c, v, r, hc, hv, hr, rfl⟩ := Rule.traces_vendorParts h
  exact ⟨c, v, r, hc, hv, hr, by simp, by simp, by simp [Pattern.readText_append]⟩

theorem mark_and_rest {p : VendorParts} (h : ofText? t = some p) :
    ∃ c, Derivation.Colons c ∧ VendorMark p.vendor ∧ VendorRest p.rest ∧ t = c ++ (p.vendor ++ p.rest) := by
  obtain ⟨es, hes, hparts⟩ := Option.bind_eq_some_iff.1 h
  obtain ⟨htraces, rfl⟩ := Pattern.traces_of_whole? hes
  obtain ⟨c, v, r, hc, hv, hr, hvendor, hrest, hread⟩ := exists_of_traces htraces
  obtain rfl : (⟨v, r⟩ : VendorParts) = p := by simpa [hvendor, hrest] using hparts
  exact ⟨c, hc, hv, hr, hread⟩

theorem exists_ofText? (h : VendorPseudo t) : ∃ p, ofText? t = some p := by
  have hsome : (Rule.vendorParts.whole? t).isSome = true := by
    have haccepts := Pattern.accepts_iff_matches (p := Rule.vendorParts) (by decide +kernel) t
    rw [Rule.matches_vendorParts] at haccepts
    exact haccepts.2 h
  obtain ⟨es, hes⟩ := Option.isSome_iff_exists.1 hsome
  obtain ⟨c, v, r, -, -, -, hvendor, hrest, -⟩ := exists_of_traces (Pattern.traces_of_whole? hes).1
  exact ⟨⟨v, r⟩, by simp [ofText?, hes, hvendor, hrest]⟩

end VendorParts

/-! ### The cuts -/

variable {u v i body : Text} {c : Char}

/-- What is before the first parenthesis, which is all if there is none. -/
def untilParenthesis (t : Text) : Text :=
  match Text.cutAt? '(' t with
  | some (name, _) => name
  | none => t

theorem untilParenthesis_append (hu : '(' ∉ u) : untilParenthesis (u ++ '(' :: v) = u := by
  rw [untilParenthesis, Text.cutAt?_append hu]

theorem untilParenthesis_of_not_mem (ht : '(' ∉ t) : untilParenthesis t = t := by
  rw [untilParenthesis, Text.cutAt?_of_not_mem ht]

/-- A parenthesis in a name is escaped, and the cut leaves the backslash. -/
theorem not_mem_of_not_endsOpen (hi : Escaping IsNameInner i) (h : ¬ EndsOpen (untilParenthesis (i ++ v))) :
    '(' ∉ i := by
  intro hmem
  obtain ⟨before, after, rfl, hbefore⟩ := List.eq_append_cons_of_mem hmem
  rw [List.append_assoc, List.cons_append, untilParenthesis_append hbefore] at h
  exact h (hi.loneBackslash_of_cut (by decide)).endsOpen

theorem argumentOf?_of_not_mem (ht : '(' ∉ t) : argumentOf? t = none := by
  rw [argumentOf?, Text.cutAt?_of_not_mem ht, Option.bind_none]

theorem argumentOf?_cons (hc : c ≠ '(') : argumentOf? (c :: t) = argumentOf? t := by
  rw [argumentOf?, argumentOf?, Text.cutAt?, if_neg hc]
  cases Text.cutAt? '(' t <;> rfl

theorem argumentOf?_colons (hc : Derivation.Colons u) : argumentOf? (u ++ t) = argumentOf? t := by
  rcases hc with _ | _
  · exact argumentOf?_cons (by decide)
  · exact (argumentOf?_cons (by decide)).trans (argumentOf?_cons (by decide))

/-! ### The parts together -/

/-- The text of the parts, without colons. -/
def written (p : Pseudo) : Text :=
  p.vendor.getD [] ++ p.name ++ (p.argument.map fun a => '(' :: (a ++ [')'])).getD []

/-- The parts make up the text after the colons, and they are what the grammar has there. -/
structure MakesUp (p : Pseudo) (body : Text) : Prop where
  written_eq : p.written = body
  isIdent : Production.ident.accepts (p.vendor.getD [] ++ p.name) = true
  isFunctional : p.argument.isSome → Production.functionalPseudo.accepts body = true

theorem MakesUp.not_endsOpen {p : Pseudo} (hvendor : Escaping IsNameInner (p.vendor.getD [])) (h : MakesUp p body) :
    ¬ EndsOpen p.name := by
  have hident : Ident (p.vendor.getD [] ++ p.name) := (Production.accepts_iff_derives .ident _).1 h.isIdent
  exact not_endsOpen_of_escaping (hvendor.right hident.escaping)

theorem split_of_vendor {p : VendorParts} (h : VendorParts.ofText? t = some p) :
    split t = ⟨some p.vendor, untilParenthesis p.rest, none, colonsOf? t⟩ := by
  obtain ⟨c, hc, hv, hr, heq⟩ := VendorParts.mark_and_rest h
  have helement := isValidElement_of_vendor (vendorPseudo_iff.2 ⟨c, _, _, hc, hv, hr, heq⟩)
  simp only [split, h, helement, if_true, Option.map_some]
  rfl

/-- The pseudo-elements without a vendor's mark have no parenthesis. -/
theorem argumentOf?_of_element (h : isValidElement t = true) (hnone : VendorParts.ofText? t = none) :
    argumentOf? t = none := by
  rcases knownElement_of_isValidElement h with ⟨hc, hname⟩ | hvendor
  · rw [argumentOf?_colons hc, argumentOf?_of_not_mem]
    exact (isWord_of_table (by simp) hname).not_mem (by decide)
  · obtain ⟨p, hp⟩ := VendorParts.exists_ofText? hvendor
    rw [hnone] at hp
    cases hp

theorem split_of_plain (hc : Derivation.Colons u) (hbody : ∀ w, body ≠ ':' :: w)
    (h : VendorParts.ofText? (u ++ body) = none) :
    split (u ++ body) = ⟨none, untilParenthesis body, argumentOf? body, colonsOf? (u ++ body)⟩ := by
  have hdrop : (u ++ body).dropWhile (· = ':') = body := by
    cases body with
    | nil => rcases hc with _ | _ <;> rfl
    | cons d w =>
      have hd : d ≠ ':' := fun hd => hbody w (by rw [hd])
      rcases hc with _ | _ <;> simp [hd]
  have hargument : (if isValidElement (u ++ body) then none else argumentOf? (u ++ body)) = argumentOf? body := by
    split
    · rename_i hvalid
      rw [← argumentOf?_colons hc, argumentOf?_of_element hvalid h]
    · exact argumentOf?_colons hc
  simp only [split, h, hdrop, hargument, Option.map_none]
  rfl

theorem makesUp_of_vendor (hv : VendorMark v) (hr : VendorRest u) (h : ¬ EndsOpen (untilParenthesis u))
    (colons : Option Colons) : MakesUp ⟨some v, untilParenthesis u, none, colons⟩ (v ++ u) := by
  have hparen : '(' ∉ u := by
    rw [← List.append_nil u] at h
    exact not_mem_of_not_endsOpen (escaping_of_many_nameChar hr.many_nameChar) h
  rw [untilParenthesis_of_not_mem hparen]
  exact ⟨by simp [written], (Production.accepts_iff_derives .ident _).2 (ident_of_vendor hv hr), by simp⟩

theorem makesUp_of_plain (hbody : Ident body ∨ FunctionalPseudo body) (h : ¬ EndsOpen (untilParenthesis body))
    (colons : Option Colons) : MakesUp ⟨none, untilParenthesis body, argumentOf? body, colons⟩ body := by
  rcases hbody with hi | hf
  · have hparen : '(' ∉ body := by
      rw [← List.append_nil body] at h
      exact not_mem_of_not_endsOpen hi.escaping h
    rw [untilParenthesis_of_not_mem hparen, argumentOf?_of_not_mem hparen]
    exact ⟨by simp [written], (Production.accepts_iff_derives .ident _).2 hi, by simp⟩
  · have hacc := (Production.accepts_iff_derives .functionalPseudo body).2 hf
    obtain @⟨f, a, e, hi, -, -⟩ := hf
    have hparen : '(' ∉ f := not_mem_of_not_endsOpen hi.escaping h
    rw [untilParenthesis_append hparen, argumentOf?_append hparen]
    exact ⟨by simp [written], (Production.accepts_iff_derives .ident _).2 hi, fun _ => hacc⟩

theorem bare_append (hc : Derivation.Colons u) (hbody : ∀ w, body ≠ ':' :: w) : bare (u ++ body) = body := by
  rcases hc with _ | _
  · rw [List.singleton_append, bare]
    exact hbody
  · rfl

theorem classification_of_ofText {p : Pseudo} (h : ofText t = .ok (some p)) :
    ∃ c, Classification.ofText t = .ok c ∧ c.category.isPseudo = true ∧ p = split t := by
  unfold ofText at h
  split at h
  · cases h
  · split at h
    · cases h
    · rename_i c hc
      split at h
      · rename_i hpseudo
        cases h
        exact ⟨c, hc, hpseudo, rfl⟩
      · cases h

theorem productionOf_of_isPseudo {category : Category} (h : category.isPseudo = true) :
    Token.productionOf category = .pseudo := by
  cases category <;> simp_all [Category.isPseudo, Token.productionOf]

theorem eq_split_of_ofText {p : Pseudo} (h : ofText t = .ok (some p)) : Derivation.Pseudo t ∧ p = split t := by
  obtain ⟨c, hc, hpseudo, hp⟩ := classification_of_ofText h
  have hkind := (Token.isKind_of_classification hc).1
  rw [productionOf_of_isPseudo hpseudo] at hkind
  exact ⟨hkind.derives, hp⟩

theorem append_ne_colon (hi : Ident i) (v w : Text) : i ++ v ≠ ':' :: w := by
  obtain ⟨d, r, rfl, hd⟩ := hi.head
  intro heq
  obtain rfl := (List.cons.inj heq).1
  exact absurd hd (by decide)

theorem exists_body (h : Derivation.Pseudo t) : ∃ c body, Derivation.Colons c ∧ (∀ w, body ≠ ':' :: w) ∧
    (Ident body ∨ FunctionalPseudo body) ∧ t = c ++ body := by
  rcases h with @⟨c, i, hc, hi⟩ | @⟨c, f, hc, hf⟩
  · refine ⟨c, i, hc, ?_, .inl hi, rfl⟩
    simpa using append_ne_colon hi []
  · refine ⟨c, f, hc, ?_, .inr hf, rfl⟩
    obtain ⟨hi, -, -⟩ := hf
    exact append_ne_colon hi _

/-- The parts of a pseudo make it up again, with its name and argument where the grammar has them, unless an escaped
parenthesis was taken for that of an argument.  Then the name ends with a backslash that escapes nothing. -/
theorem makesUp_iff {p : Pseudo} (h : ofText t = .ok (some p)) :
    ∃ c, (c = [':'] ∨ c = [':', ':']) ∧ t = c ++ bare t ∧ (bare t).head? ≠ some ':' ∧
      (MakesUp p (bare t) ↔ ¬ EndsOpen p.name) := by
  obtain ⟨hpseudo, rfl⟩ := eq_split_of_ofText h
  have hcolons {c : Text} (hc : Derivation.Colons c) : c = [':'] ∨ c = [':', ':'] := by
    rcases hc with _ | _ <;> simp
  have hhead {body : Text} (hbody : ∀ w, body ≠ ':' :: w) : body.head? ≠ some ':' := by
    intro heq
    obtain ⟨w, rfl⟩ := List.head?_eq_some_iff.1 heq
    exact hbody w rfl
  cases hparts : VendorParts.ofText? t with
  | some parts =>
    obtain ⟨c, hc, hv, hr, heq⟩ := VendorParts.mark_and_rest hparts
    have hbody : ∀ w, parts.vendor ++ parts.rest ≠ ':' :: w := by
      simpa using append_ne_colon (ident_of_vendor hv hr) []
    have hbare : bare t = parts.vendor ++ parts.rest := heq ▸ bare_append hc hbody
    rw [split_of_vendor hparts, hbare]
    refine ⟨c, hcolons hc, heq, hhead hbody, fun hmade => ?_, fun hopen => makesUp_of_vendor hv hr hopen _⟩
    exact hmade.not_endsOpen (escaping_of_many_nameChar hv.many_nameChar)
  | none =>
    obtain ⟨c, body, hc, hbody, hderives, rfl⟩ := exists_body hpseudo
    rw [split_of_plain hc hbody hparts, bare_append hc hbody]
    refine ⟨c, hcolons hc, rfl, hhead hbody, fun hmade => ?_, fun hopen => makesUp_of_plain hderives hopen _⟩
    exact hmade.not_endsOpen .nil

/-- The parenthesis in the vendor's part is not cut at. -/
theorem makesUp_of_escape_in_vendor :
    let t := ":-o\\(x-\\61 b".toList
    let p : Pseudo := ⟨some "-o\\(x-".toList, "\\61 b".toList, none, none⟩
    ofText t = .ok (some p) ∧
    (∃ c, (c = [':'] ∨ c = [':', ':']) ∧ t = c ++ bare t ∧ (bare t).head? ≠ some ':' ∧
      (MakesUp p (bare t) ↔ ¬ EndsOpen p.name)) ∧ MakesUp p (bare t) := by
  intro t p
  have h : ofText t = .ok (some p) := by decide +kernel
  obtain ⟨c, hc, heq, hhead, hiff⟩ := makesUp_iff h
  exact ⟨h, ⟨c, hc, heq, hhead, hiff⟩, hiff.2 (by decide)⟩

/-- An escaped parenthesis in a name cuts off the rest of it, and a second one makes an argument where there is none. -/
theorem split_of_escaped_parenthesis :
    ofText ":a\\(b".toList = .ok (some ⟨none, "a\\".toList, none, none⟩) ∧
    Production.ident.accepts "a\\(b".toList = true ∧ Production.ident.accepts "a\\".toList = false ∧
    ofText ":a\\(\\)".toList = .ok (some ⟨none, "a\\".toList, some "\\".toList, none⟩) ∧
    Production.functionalPseudo.accepts "a\\(\\)".toList = false := by
  decide +kernel

end Pseudo

end SelectorSyntax
