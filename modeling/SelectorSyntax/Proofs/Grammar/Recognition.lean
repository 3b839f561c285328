import SelectorSyntax.Proofs.Grammar.Derivation
import SelectorSyntax.Proofs.Pattern.Language

/-!
# The patterns recognize the grammar

Each pattern of the library stands for the texts that its symbol derives.  The patterns share what two alternatives
begin with and the rules do not, so the two sides are not copies of each other; `matches_pseudo` and
`matches_simpleSelectorSequence` close the gap.

Lexemes come first, then the rules from the smallest to the largest.  Together with the search this gives
`Production.accepts_iff_derives`.
-/

namespace SelectorSyntax

open SelectorSyntax.Derivation

/-! ### Characters -/

/-- Texts of one character with the property. -/
def One (S : Char → Prop) (t : Text) : Prop :=
  ∃ c, S c ∧ t = [c]

theorem times_one_iff {S : Char → Prop} {n : Nat} {t : Text} :
    Times (One S) n t ↔ t.length = n ∧ ∀ c ∈ t, S c := by
  constructor
  · intro h
    induction h with
    | zero => simp
    | succ hx _ ih =>
      obtain ⟨c, hc, rfl⟩ := hx
      simp only [List.cons_append, List.nil_append, List.length_cons, List.forall_mem_cons]
      exact ⟨by omega, hc, ih.2⟩
  · intro h
    obtain ⟨rfl, h⟩ := h
    induction t with
    | nil => exact .zero
    | cons c t ih =>
      rw [List.forall_mem_cons] at h
      exact .succ ⟨c, h.1, rfl⟩ (ih h.2)

theorem many_iff_times {P : Text → Prop} {t : Text} : Many P t ↔ ∃ n, Times P n t := by
  constructor
  · intro h
    induction h with
    | nil => exact ⟨0, .zero⟩
    | cons hx _ ih =>
      obtain ⟨n, hn⟩ := ih
      exact ⟨n + 1, .succ hx hn⟩
  · intro h
    obtain ⟨n, h⟩ := h
    induction h with
    | zero => exact .nil
    | succ hx _ ih => exact .cons hx ih

theorem many_one_iff {S : Char → Prop} {t : Text} : Many (One S) t ↔ ∀ c ∈ t, S c := by
  simp [many_iff_times, times_one_iff]

theorem several_one_iff {S : Char → Prop} {t : Text} : Several (One S) t ↔ (∀ c ∈ t, S c) ∧ t ≠ [] := by
  constructor
  · intro h
    obtain ⟨⟨c, hc, rfl⟩, hy⟩ := h
    simpa using ⟨hc, many_one_iff.1 hy⟩
  · intro h
    obtain ⟨h, hne⟩ := h
    obtain ⟨c, t, rfl⟩ := List.exists_cons_of_ne_nil hne
    rw [List.forall_mem_cons] at h
    exact .cons ⟨c, h.1, rfl⟩ (many_one_iff.2 h.2)

theorem CharRange.contains_iff (r : CharRange) (n : Nat) : r.contains n = true ↔ r.first ≤ n ∧ n ≤ r.last := by
  simp [contains]

theorem CharRange.contains_between (a b c : Char) :
    (CharRange.between a b).contains c.toNat = true ↔ a ≤ c ∧ c ≤ b := by
  simp only [contains_iff, between, Char.le_def, UInt32.le_iff_toNat_le]
  rfl

theorem CharRange.contains_one (a c : Char) : (CharRange.one a).contains c.toNat = true ↔ c = a := by
  simp only [contains_iff, one]
  constructor
  · intro h
    obtain ⟨h₁, h₂⟩ := h
    exact Char.ext (UInt32.toNat_inj.1 (Nat.le_antisymm h₂ h₁))
  · rintro rfl
    exact ⟨Nat.le_refl _, Nat.le_refl _⟩

theorem CharSet.contains_ranges (rs : List CharRange) (c : Char) :
    (CharSet.ranges rs).contains c = true ↔ ∃ r ∈ rs, r.contains c.toNat = true := by
  simp [contains]

theorem CharSet.contains_outside (rs : List CharRange) (c : Char) :
    (CharSet.outside rs).contains c = true ↔ ∀ r ∈ rs, ¬ r.contains c.toNat = true := by
  simp [outside, contains]

theorem CharSet.contains_ofText (s : Text) (c : Char) : (CharSet.ofText s).contains c = true ↔ c ∈ s := by
  simp [ofText, contains_ranges, CharRange.contains_one]

namespace Pattern

/-! ### Kinds of patterns -/

variable {p q : Pattern}

theorem matches_chars (set : CharSet) : (Pattern.chars set).Matches = One (set.contains ·) := rfl

theorem matches_char (c : Char) : (char c).Matches = (· = [c]) := by
  ext t
  simp [char, matches_chars, One, CharSet.contains_ofText]

theorem matches_oneOf (s : String) : (oneOf s).Matches = One (· ∈ s.toList) := by
  simp only [oneOf, matches_chars, CharSet.contains_ofText]

theorem matches_seq : (Pattern.seq p q).Matches = fun t => ∃ x y, p.Matches x ∧ q.Matches y ∧ t = x ++ y := rfl

theorem matches_concat_cons (ps : List Pattern) : (concat (p :: q :: ps)).Matches =
    fun t => ∃ x y, p.Matches x ∧ (concat (q :: ps)).Matches y ∧ t = x ++ y := rfl

theorem matches_alt : (Pattern.alt p q).Matches = fun t => p.Matches t ∨ q.Matches t := rfl

private theorem matches_concat_map_char (s : Text) : (concat (s.map char)).Matches = (· = s) := by
  induction s with
  | nil => rfl
  | cons c s ih =>
    cases s with
    | nil => exact matches_char c
    | cons d s =>
      ext t
      simp only [List.map_cons, concat, matches_seq, matches_char] at ih ⊢
      rw [ih]
      simp

theorem matches_word (s : String) : (word s).Matches = (· = s.toList) :=
  matches_concat_map_char s.toList

theorem matches_choice_cons (ps : List Pattern) :
    (choice (p :: q :: ps)).Matches = fun t => p.Matches t ∨ (choice (q :: ps)).Matches t := rfl

theorem matches_optional : (optional p).Matches = Maybe p.Matches := by
  ext t
  constructor
  · intro h
    rcases h with h | rfl
    · exact .present h
    · exact .absent
  · intro h
    rcases h with _ | h
    · exact .inr rfl
    · exact .inl h

theorem matches_star : (star p).Matches = Many p.Matches := by
  ext t
  simp [star, Matches, AllowedRounds, many_iff_times]

theorem matches_plus : (plus p).Matches = Several p.Matches := by
  ext t
  simp only [plus, Matches, AllowedRounds]
  constructor
  · intro h
    obtain ⟨n, ⟨-, hn⟩, h⟩ := h
    cases h with
    | zero => simp at hn
    | succ hx hy => exact .cons hx (many_iff_times.2 ⟨_, hy⟩)
  · intro h
    obtain ⟨hx, hy⟩ := h
    obtain ⟨n, hn⟩ := many_iff_times.1 hy
    exact ⟨n + 1, ⟨by simp, .inl (Nat.le_add_left 1 n)⟩, .succ hx hn⟩

/-- A bounded number of characters. -/
theorem matches_rounds_one {S : Char → Prop} (hp : p.Matches = One S) (greedy : Bool) {least most : Nat}
    (h : least ≤ most) : (Pattern.rounds greedy least (some most) p).Matches =
      fun t => (∀ c ∈ t, S c) ∧ least ≤ t.length ∧ t.length ≤ most := by
  ext t
  simp only [Matches, AllowedRounds, hp, times_one_iff]
  constructor
  · intro h
    obtain ⟨n, ⟨hmost, hleast⟩, rfl, hS⟩ := h
    have hmost := hmost most rfl
    rcases hleast with hleast | hleast
    · exact ⟨hS, hleast, hmost⟩
    · injection hleast
      exact ⟨hS, by omega, hmost⟩
  · intro h
    obtain ⟨hS, hleast, hmost⟩ := h
    refine ⟨t.length, ⟨?_, .inl hleast⟩, rfl, hS⟩
    intro k h
    obtain ⟨⟩ := h
    exact hmost

end Pattern

namespace Lexeme

open Pattern

/-! ### Lexemes -/

theorem matches_digit : digit.Matches = One IsDigit := by
  ext t
  simp [digit, within, matches_chars, One, CharSet.contains_ranges, CharRange.contains_between, IsDigit]

theorem matches_hexDigit : hexDigit.Matches = One IsHex := by
  ext t
  simp [hexDigit, within, matches_chars, One, CharSet.contains_ranges, CharRange.contains_between, IsHex, IsDigit]

theorem matches_nonAscii : nonAscii.Matches = One IsNonAscii := by
  ext t
  simp only [nonAscii, outside, matches_chars, One, CharSet.contains_outside, CharRange.contains_iff, IsNonAscii,
    List.forall_mem_singleton]
  simp [Nat.lt_iff_add_one_le]

theorem matches_blank : blank.Matches = One (Text.isBlank ·) := by
  ext t
  simp [blank, matches_oneOf, One, Text.isBlank, or_assoc]

theorem matches_optionalBlanks : optionalBlanks.Matches = Blanks := by
  ext t
  rw [optionalBlanks, matches_star, matches_blank, many_one_iff]
  rfl

theorem matches_blanks : blanks.Matches = fun t => Blanks t ∧ t ≠ [] := by
  ext t
  rw [blanks, matches_plus, matches_blank, several_one_iff]
  rfl

theorem matches_newline : newline.Matches = Newline := by
  ext t
  simp only [newline, choice, matches_alt, matches_char, matches_word]
  constructor
  · intro h
    rcases h with rfl | rfl | rfl | rfl
    · exact .lineFeed
    · exact .both
    · exact .carriageReturn
    · exact .formFeed
  · intro h
    rcases h with _ | _ | _ | _ <;> simp

theorem matches_escapeEnd : escapeEnd.Matches = EscapeEnd := by
  ext t
  simp only [escapeEnd, matches_optional, matches_alt, matches_word, matches_blank]
  constructor
  · intro h
    rcases h with _ | (rfl | ⟨c, hc, rfl⟩)
    · exact .absent
    · exact .both
    · exact .blank hc
  · intro h
    rcases h with _ | _ | hc
    · exact .absent
    · exact .present (.inl rfl)
    · exact .present (.inr ⟨_, hc, rfl⟩)

theorem matches_hexEscape : hexEscape.Matches = HexEscape := by
  ext t
  simp only [hexEscape, concat, matches_seq, matches_char, matches_escapeEnd,
    matches_rounds_one matches_hexDigit true (show 1 ≤ 6 by decide)]
  constructor
  · intro h
    obtain ⟨_, _, rfl, ⟨digits, e, ⟨hhex, hleast, hmost⟩, he, rfl⟩, rfl⟩ := h
    show HexEscape ('\\' :: (digits ++ e))
    exact .mk hhex hleast hmost he
  · intro h
    obtain ⟨hhex, hleast, hmost, he⟩ := h
    exact ⟨_, _, rfl, ⟨_, _, ⟨hhex, hleast, hmost⟩, he, rfl⟩, rfl⟩

theorem matches_escape : escape.Matches = Escape := by
  ext t
  simp only [escape, outside, matches_alt, matches_seq, matches_char, matches_hexEscape, matches_chars, One,
    CharSet.contains_outside, List.forall_mem_cons, CharRange.contains_one, CharRange.contains_between]
  constructor
  · intro h
    rcases h with h | ⟨_, _, rfl, ⟨c, ⟨hr, hn, hf, hd, ha, hA, -⟩, rfl⟩, rfl⟩
    · exact .hex h
    · exact .char hr hn hf (by simp only [IsHex, IsDigit]; tauto)
  · intro h
    rcases h with h | ⟨hr, hn, hf, hx⟩
    · exact .inl h
    · refine .inr ⟨_, _, rfl, ⟨_, ⟨hr, hn, hf, ?_⟩, rfl⟩, rfl⟩
      simp only [IsHex, IsDigit, not_or] at hx
      exact ⟨hx.1, hx.2.1, hx.2.2, by simp⟩

theorem matches_nameStart : nameStart.Matches = NameStart := by
  ext t
  simp only [nameStart, choice, within, matches_alt, matches_chars, One, CharSet.contains_ranges,
    matches_nonAscii, matches_escape, List.exists_mem_cons_iff, CharRange.contains_one, CharRange.contains_between]
  constructor
  · intro h
    rcases h with ⟨c, hc, rfl⟩ | ⟨c, hc, rfl⟩ | h
    · exact .letter (by simpa [IsLetter] using hc)
    · exact .nonAscii hc
    · exact .escape h
  · intro h
    rcases h with hc | hc | h
    · exact .inl ⟨_, by simpa [IsLetter] using hc, rfl⟩
    · exact .inr (.inl ⟨_, hc, rfl⟩)
    · exact .inr (.inr h)

theorem matches_nameChar : nameChar.Matches = NameChar := by
  ext t
  simp only [nameChar, choice, within, matches_alt, matches_chars, One, CharSet.contains_ranges,
    matches_nonAscii, matches_escape, List.exists_mem_cons_iff, CharRange.contains_one, CharRange.contains_between]
  constructor
  · intro h
    rcases h with ⟨c, hc | hc | hc | hc | hc | hc, rfl⟩ | ⟨c, hc, rfl⟩ | h
    · exact .letter (.inl hc)
    · exact .letter (.inr (.inl hc))
    · exact .letter (.inr (.inr hc))
    · exact .digit hc
    · exact hc ▸ .hyphen
    · simp at hc
    · exact .nonAscii hc
    · exact .escape h
  · intro h
    rcases h with hc | hc | _ | hc | h
    · exact .inl ⟨_, by simp only [IsLetter] at hc; tauto, rfl⟩
    · exact .inl ⟨_, .inr (.inr (.inr (.inl hc))), rfl⟩
    · exact .inl ⟨_, .inr (.inr (.inr (.inr (.inl rfl)))), rfl⟩
    · exact .inr (.inl ⟨_, hc, rfl⟩)
    · exact .inr (.inr h)

theorem matches_ident : ident.Matches = Ident := by
  ext t
  simp only [ident, concat, matches_seq, matches_optional, matches_char, matches_nameStart, matches_star,
    matches_nameChar]
  constructor
  · intro h
    obtain ⟨h, _, hh, ⟨s, u, hs, hu, rfl⟩, rfl⟩ := h
    rw [← List.append_assoc]
    exact .mk hh hs hu
  · intro h
    obtain ⟨hh, hs, hu⟩ := h
    exact ⟨_, _, hh, ⟨_, _, hs, hu, rfl⟩, List.append_assoc ..⟩

theorem matches_name : name.Matches = Name := by
  rw [name, matches_plus, matches_nameChar, Name]

theorem matches_plus_digit : (plus digit).Matches = Integer := by
  ext t
  rw [matches_plus, matches_digit, several_one_iff]
  rfl

theorem matches_star_digit : (star digit).Matches = Digits := by
  ext t
  rw [matches_star, matches_digit, many_one_iff]
  rfl

theorem matches_number : number.Matches = Number := by
  ext t
  simp only [number, concat, matches_alt, matches_seq, matches_char, matches_plus_digit, matches_star_digit]
  constructor
  · intro h
    rcases h with h | ⟨a, _, ha, ⟨_, b, rfl, hb, rfl⟩, rfl⟩
    · exact .integer h.1 h.2
    · exact .fraction ha hb.1 hb.2
  · intro h
    rcases h with ⟨h, hne⟩ | ⟨ha, hb, hne⟩
    · exact .inl ⟨h, hne⟩
    · exact .inr ⟨_, _, ha, ⟨_, _, rfl, ⟨hb, hne⟩, rfl⟩, rfl⟩

private theorem matches_stringPart (quote : Char) :
    (choice [outside [.one '\n', .one '\r', .one '\x0c', .one '\\', .one quote], .seq (char '\\') newline, nonAscii,
      escape]).Matches = StringPart quote := by
  ext t
  simp only [choice, outside, matches_alt, matches_seq, matches_char, matches_newline, matches_nonAscii,
    matches_escape, matches_chars, One, CharSet.contains_outside, List.forall_mem_cons, CharRange.contains_one]
  constructor
  · intro h
    rcases h with ⟨c, ⟨hn, hr, hf, hb, hq, -⟩, rfl⟩ | ⟨_, t, rfl, ht, rfl⟩ | ⟨c, hc, rfl⟩ | h
    · exact .plain hn hr hf hb hq
    · exact .newline ht
    · exact .nonAscii hc
    · exact .escape h
  · intro h
    rcases h with ⟨hn, hr, hf, hb, hq⟩ | ht | hc | h
    · exact .inl ⟨_, ⟨hn, hr, hf, hb, hq, by simp⟩, rfl⟩
    · exact .inr (.inl ⟨_, _, rfl, ht, rfl⟩)
    · exact .inr (.inr (.inl ⟨_, hc, rfl⟩))
    · exact .inr (.inr (.inr h))

private theorem matches_quoted (quote : Char) :
    (quoted quote).Matches = fun t => ∃ x, Many (StringPart quote) x ∧ t = quote :: (x ++ [quote]) := by
  ext t
  simp only [quoted, concat, matches_seq, matches_char, matches_star, matches_stringPart]
  constructor
  · intro h
    obtain ⟨_, _, rfl, ⟨x, _, hx, rfl, rfl⟩, rfl⟩ := h
    exact ⟨x, hx, rfl⟩
  · intro h
    obtain ⟨x, hx, rfl⟩ := h
    exact ⟨_, _, rfl, ⟨x, _, hx, rfl, rfl⟩, rfl⟩

theorem matches_string : string.Matches = QuotedString := by
  ext t
  simp only [string, doubleQuoted, singleQuoted, matches_alt, matches_quoted]
  constructor
  · intro h
    rcases h with ⟨x, hx, rfl⟩ | ⟨x, hx, rfl⟩
    · exact .double hx
    · exact .single hx
  · intro h
    rcases h with hx | hx
    · exact .inl ⟨_, hx, rfl⟩
    · exact .inr ⟨_, hx, rfl⟩

/-! ### Letters -/

private theorem matches_letterCode {codes : List Pattern} {written : List Text}
    (hcodes : (choice codes).Matches = (· ∈ written)) :
    (concat [char '\\', .rounds true 0 (some 4) (char '0'), choice codes, escapeEnd]).Matches = fun t =>
      ∃ zeros code e, (∀ c ∈ zeros, c = '0') ∧ zeros.length ≤ 4 ∧ code ∈ written ∧ EscapeEnd e ∧
        t = '\\' :: (zeros ++ code ++ e) := by
  have hzero : (char '0').Matches = One (· = '0') := by
    ext t
    simp [matches_char, One]
  ext t
  simp only [concat, matches_seq, matches_char, hcodes, matches_escapeEnd,
    matches_rounds_one hzero true (Nat.zero_le 4)]
  constructor
  · intro h
    obtain ⟨_, _, rfl, ⟨zeros, _, ⟨hzeros, -, hlen⟩, ⟨code, e, hcode, he, rfl⟩, rfl⟩, rfl⟩ := h
    exact ⟨zeros, code, e, hzeros, hlen, hcode, he, by simp⟩
  · intro h
    obtain ⟨zeros, code, e, hzeros, hlen, hcode, he, rfl⟩ := h
    exact ⟨_, _, rfl, ⟨zeros, _, ⟨hzeros, Nat.zero_le _, hlen⟩, ⟨code, e, hcode, he, rfl⟩, rfl⟩, by simp⟩

private theorem matches_letter {cases : String} {codes : List Pattern} {written : List Text}
    (hcodes : (choice codes).Matches = (· ∈ written)) :
    (letter cases codes).Matches = Letter cases.toList written False := by
  ext t
  simp only [letter, matches_alt, matches_oneOf, matches_letterCode hcodes]
  constructor
  · intro h
    rcases h with ⟨c, hc, rfl⟩ | ⟨zeros, code, e, hzeros, hlen, hcode, he, rfl⟩
    · exact .itself hc
    · exact .code hzeros hlen hcode he
  · intro h
    rcases h with hc | ⟨hzeros, hlen, hcode, he⟩ | ⟨⟨⟩, -⟩
    · exact .inl ⟨_, hc, rfl⟩
    · exact .inr ⟨_, _, _, hzeros, hlen, hcode, he, rfl⟩

private theorem matches_plainLetter {cases : String} {codes : List Pattern} {written : List Text}
    (hcodes : (choice codes).Matches = (· ∈ written)) :
    (plainLetter cases codes).Matches = Letter cases.toList written True := by
  ext t
  simp only [plainLetter, choice, matches_alt, matches_oneOf, matches_letterCode hcodes, matches_seq, matches_char]
  constructor
  · intro h
    rcases h with ⟨c, hc, rfl⟩ | ⟨zeros, code, e, hzeros, hlen, hcode, he, rfl⟩ | ⟨_, _, rfl, ⟨c, hc, rfl⟩, rfl⟩
    · exact .itself hc
    · exact .code hzeros hlen hcode he
    · exact .escaped trivial hc
  · intro h
    rcases h with hc | ⟨hzeros, hlen, hcode, he⟩ | ⟨-, hc⟩
    · exact .inl ⟨_, hc, rfl⟩
    · exact .inr (.inl ⟨_, _, _, hzeros, hlen, hcode, he, rfl⟩)
    · exact .inr (.inr ⟨_, _, rfl, ⟨_, hc, rfl⟩, rfl⟩)

theorem matches_letterD : letterD.Matches = LetterD :=
  matches_letter (by ext t; simp [choice, matches_alt, matches_word])

theorem matches_letterE : letterE.Matches = LetterE :=
  matches_letter (by ext t; simp [choice, matches_alt, matches_word])

theorem matches_letterN : letterN.Matches = LetterN :=
  matches_plainLetter (by ext t; simp [choice, matches_alt, matches_seq, matches_char, matches_oneOf, One, or_assoc])

theorem matches_letterO : letterO.Matches = LetterO :=
  matches_plainLetter (by ext t; simp [choice, matches_alt, matches_seq, matches_char, matches_oneOf, One, or_assoc])

theorem matches_letterT : letterT.Matches = LetterT :=
  matches_plainLetter (by ext t; simp [choice, matches_alt, matches_word])

theorem matches_letterV : letterV.Matches = LetterV :=
  matches_plainLetter (by ext t; simp [choice, matches_alt, matches_word])

theorem matches_not : Lexeme.not.Matches = NotOpening := by
  ext t
  simp only [Lexeme.not, concat, matches_seq, matches_char, matches_letterN, matches_letterO, matches_letterT]
  constructor
  · intro h
    obtain ⟨_, _, rfl, ⟨n, _, hn, ⟨o, _, ho, ⟨t, _, ht, rfl, rfl⟩, rfl⟩, rfl⟩, rfl⟩ := h
    simpa using NotOpening.mk hn ho ht
  · intro h
    obtain ⟨hn, ho, ht⟩ := h
    exact ⟨_, _, rfl, ⟨_, _, hn, ⟨_, _, ho, ⟨_, _, ht, rfl, rfl⟩, rfl⟩, rfl⟩, by simp⟩

end Lexeme

namespace Rule

open Pattern Lexeme

/-! ### Rules -/

theorem matches_combinatorSymbol : (choice [plusSign, greater, tilde]).Matches =
    fun t => ∃ a c, Blanks a ∧ (c = '+' ∨ c = '>' ∨ c = '~') ∧ t = a ++ [c] := by
  ext t
  simp only [choice, plusSign, greater, tilde, matches_alt, matches_seq, matches_char, matches_optionalBlanks]
  constructor
  · intro h
    rcases h with ⟨a, _, ha, rfl, rfl⟩ | ⟨a, _, ha, rfl, rfl⟩ | ⟨a, _, ha, rfl, rfl⟩
    · exact ⟨a, _, ha, .inl rfl, rfl⟩
    · exact ⟨a, _, ha, .inr (.inl rfl), rfl⟩
    · exact ⟨a, _, ha, .inr (.inr rfl), rfl⟩
  · intro h
    obtain ⟨a, c, ha, rfl | rfl | rfl, rfl⟩ := h
    · exact .inl ⟨a, _, ha, rfl, rfl⟩
    · exact .inr (.inl ⟨a, _, ha, rfl, rfl⟩)
    · exact .inr (.inr ⟨a, _, ha, rfl, rfl⟩)

theorem matches_combinator : combinator.Matches = Combinator := by
  ext t
  simp only [combinator, matches_alt, matches_seq, matches_combinatorSymbol, matches_optionalBlanks, matches_blanks]
  constructor
  · intro h
    rcases h with ⟨_, b, ⟨a, c, ha, hc, rfl⟩, hb, rfl⟩ | ⟨h, hne⟩
    · simpa using Combinator.symbol ha hc hb
    · exact .blanks h hne
  · intro h
    rcases h with ⟨ha, hc, hb⟩ | ⟨h, hne⟩
    · exact .inl ⟨_, _, ⟨_, _, ha, hc, rfl⟩, hb, by simp⟩
    · exact .inr ⟨h, hne⟩

theorem matches_namespaceQualifier : namespaceQualifier.Matches = NamespaceQualifier := by
  ext t
  simp only [namespaceQualifier, matches_seq, matches_optional, matches_alt, matches_char, matches_ident]
  constructor
  · intro h
    obtain ⟨_, _, _ | (hi | rfl), rfl, rfl⟩ := h
    · exact .empty
    · exact .ident hi
    · exact .any
  · intro h
    rcases h with _ | hi | _
    · exact ⟨_, _, .absent, rfl, rfl⟩
    · exact ⟨_, _, .present (.inl hi), rfl, rfl⟩
    · exact ⟨_, _, .present (.inr rfl), rfl, rfl⟩

theorem matches_typeSelector : typeSelector.Matches = TypeSelector := by
  ext t
  simp only [typeSelector, matches_seq, matches_optional, matches_namespaceQualifier, matches_ident]
  constructor
  · intro h
    obtain ⟨n, i, hn, hi, rfl⟩ := h
    exact .mk hn hi
  · intro h
    obtain ⟨hn, hi⟩ := h
    exact ⟨_, _, hn, hi, rfl⟩

theorem matches_universal : universal.Matches = Universal := by
  ext t
  simp only [universal, matches_seq, matches_optional, matches_namespaceQualifier, matches_char]
  constructor
  · intro h
    obtain ⟨n, _, hn, rfl, rfl⟩ := h
    exact .mk hn
  · intro h
    obtain ⟨hn⟩ := h
    exact ⟨_, _, hn, rfl, rfl⟩

theorem matches_classSelector : classSelector.Matches = ClassSelector := by
  ext t
  simp only [classSelector, matches_seq, matches_char, matches_ident]
  constructor
  · intro h
    obtain ⟨_, i, rfl, hi, rfl⟩ := h
    exact .mk hi
  · intro h
    obtain ⟨hi⟩ := h
    exact ⟨_, _, rfl, hi, rfl⟩

theorem matches_idSelector : idSelector.Matches = IdSelector := by
  ext t
  simp only [idSelector, Lexeme.hash, matches_seq, matches_char, matches_name]
  constructor
  · intro h
    obtain ⟨_, i, rfl, hi, rfl⟩ := h
    exact .mk hi
  · intro h
    obtain ⟨hi⟩ := h
    exact ⟨_, _, rfl, hi, rfl⟩

theorem matches_attributeOperator : attributeOperator.Matches = AttributeOperator := by
  ext t
  simp only [attributeOperator, choice, leadMatch, endMatch, substringMatch, includes, dashMatch, matches_alt,
    matches_word, matches_char]
  constructor
  · intro h
    rcases h with rfl | rfl | rfl | rfl | rfl | rfl
    · exact .lead
    · exact .ending
    · exact .substring
    · exact .equal
    · exact .includes
    · exact .dash
  · intro h
    rcases h with _ | _ | _ | _ | _ | _ <;> simp

theorem matches_attributeValue : (Pattern.alt ident string).Matches = AttributeValue := by
  ext t
  simp only [matches_alt, matches_ident, matches_string]
  constructor
  · intro h
    rcases h with h | h
    · exact .ident h
    · exact .string h
  · intro h
    rcases h with h | h
    · exact .inl h
    · exact .inr h

private theorem matches_attributeTest :
    (concat [attributeOperator, optionalBlanks, .alt ident string, optionalBlanks]).Matches = AttributeTest := by
  ext t
  simp only [concat, matches_seq, matches_attributeOperator, matches_optionalBlanks, matches_attributeValue]
  constructor
  · intro h
    obtain ⟨o, _, ho, ⟨a, _, ha, ⟨v, b, hv, hb, rfl⟩, rfl⟩, rfl⟩ := h
    simpa using AttributeTest.mk ho ha hv hb
  · intro h
    obtain ⟨ho, ha, hv, hb⟩ := h
    exact ⟨_, _, ho, ⟨_, _, ha, ⟨_, _, hv, hb, rfl⟩, rfl⟩, by simp⟩

theorem matches_attrib : attrib.Matches = Attrib := by
  ext t
  have htest := matches_attributeTest
  simp only [concat] at htest
  simp only [attrib, bracketed, concat, matches_seq (p := char '['), matches_seq (p := optionalBlanks),
    matches_seq (p := optional _), matches_seq (p := ident), matches_optional, matches_char, matches_optionalBlanks,
    matches_namespaceQualifier, matches_ident, htest]
  constructor
  · intro h
    obtain ⟨_, _, rfl, ⟨a, _, ha, ⟨n, _, hn, h, rfl⟩, rfl⟩, rfl⟩ := h
    obtain ⟨i, _, hi, ⟨b, _, hb, ⟨x, _, hx, rfl, rfl⟩, rfl⟩, rfl⟩ := h
    simpa using Attrib.mk ha hn hi hb hx
  · intro h
    obtain ⟨ha, hn, hi, hb, hx⟩ := h
    refine ⟨_, _, rfl, ⟨_, _, ha, ⟨_, _, hn, ⟨_, _, hi, ⟨_, _, hb, ⟨_, _, hx, rfl, rfl⟩, rfl⟩, rfl⟩, rfl⟩, rfl⟩, ?_⟩
    simp

theorem matches_expressionTerm :
    (choice [plusSign, char '-', dimension, number, string, ident]).Matches = ExpressionTerm := by
  ext t
  simp only [choice, plusSign, dimension, matches_alt, matches_seq, matches_char, matches_optionalBlanks,
    matches_number, matches_string, matches_ident]
  constructor
  · intro h
    rcases h with ⟨a, _, ha, rfl, rfl⟩ | rfl | ⟨n, i, hn, hi, rfl⟩ | h | h | h
    · exact .plus ha
    · exact .minus
    · exact .dimension hn hi
    · exact .number h
    · exact .string h
    · exact .ident h
  · intro h
    rcases h with ha | _ | ⟨hn, hi⟩ | h | h | h
    · exact .inl ⟨_, _, ha, rfl, rfl⟩
    · exact .inr (.inl rfl)
    · exact .inr (.inr (.inl ⟨_, _, hn, hi, rfl⟩))
    · exact .inr (.inr (.inr (.inl h)))
    · exact .inr (.inr (.inr (.inr (.inl h))))
    · exact .inr (.inr (.inr (.inr (.inr h))))

theorem matches_expression : expression.Matches = Expression := by
  rw [expression, matches_plus, matches_seq, matches_expressionTerm, matches_optionalBlanks, Expression]
  congr 1
  ext t
  constructor
  · intro h
    obtain ⟨x, a, hx, ha, rfl⟩ := h
    exact .mk hx ha
  · intro h
    obtain ⟨hx, ha⟩ := h
    exact ⟨_, _, hx, ha, rfl⟩

theorem matches_argument :
    argument.Matches = fun t => ∃ a e, Blanks a ∧ Expression e ∧ t = a ++ e ++ [')'] := by
  ext t
  simp only [argument, concat, matches_seq, matches_optionalBlanks, matches_expression, matches_char]
  constructor
  · intro h
    obtain ⟨a, _, ha, ⟨e, _, he, rfl, rfl⟩, rfl⟩ := h
    exact ⟨a, e, ha, he, by simp⟩
  · intro h
    obtain ⟨a, e, ha, he, rfl⟩ := h
    exact ⟨a, _, ha, ⟨e, _, he, rfl, rfl⟩, by simp⟩

theorem matches_functionalPseudo : functionalPseudo.Matches = FunctionalPseudo := by
  ext t
  simp only [functionalPseudo, Lexeme.function, matches_seq, matches_ident, matches_char, matches_argument]
  constructor
  · intro h
    obtain ⟨_, _, ⟨f, _, hf, rfl, rfl⟩, ⟨a, e, ha, he, rfl⟩, rfl⟩ := h
    simpa using FunctionalPseudo.mk hf ha he
  · intro h
    obtain ⟨hf, ha, he⟩ := h
    exact ⟨_, _, ⟨_, _, hf, rfl, rfl⟩, ⟨_, _, ha, he, rfl⟩, by simp⟩

theorem matches_colons : colons.Matches = Colons := by
  ext t
  simp only [colons, matches_seq, matches_optional, matches_char]
  constructor
  · intro h
    obtain ⟨_, _, rfl, _ | rfl, rfl⟩ := h
    · exact .one
    · exact .two
  · intro h
    rcases h with _ | _
    · exact ⟨_, _, rfl, .absent, rfl⟩
    · exact ⟨_, _, rfl, .present rfl, rfl⟩

/-- The identifier that both alternatives begin with is read first. -/
theorem matches_pseudo : pseudo.Matches = Pseudo := by
  ext t
  simp only [pseudo, concat, matches_seq, matches_colons, matches_ident, matches_optional, matches_char,
    matches_argument]
  constructor
  · intro h
    obtain ⟨c, _, hc, ⟨i, _, hi, _ | ⟨_, _, rfl, ⟨a, e, ha, he, rfl⟩, rfl⟩, rfl⟩, rfl⟩ := h
    · simpa using Pseudo.ident hc hi
    · exact .functional hc (.mk hi ha he)
  · intro h
    rcases h with ⟨hc, hi⟩ | ⟨hc, ⟨hf, ha, he⟩⟩
    · exact ⟨_, _, hc, ⟨_, _, hi, .absent, (List.append_nil _).symm⟩, rfl⟩
    · exact ⟨_, _, hc, ⟨_, _, hf, .present ⟨_, _, rfl, ⟨_, _, ha, he, rfl⟩, rfl⟩, rfl⟩, rfl⟩

theorem matches_negationArg : negationArg.Matches = NegationArg := by
  ext t
  simp only [negationArg, choice, matches_alt, matches_typeSelector, matches_universal, matches_idSelector,
    matches_classSelector, matches_attrib, matches_pseudo]
  constructor
  · intro h
    rcases h with h | h | h | h | h | h
    · exact .typeSelector h
    · exact .universal h
    · exact .idSelector h
    · exact .classSelector h
    · exact .attrib h
    · exact .pseudo h
  · intro h
    rcases h with h | h | h | h | h | h <;> tauto

theorem matches_negation : negation.Matches = Negation := by
  ext t
  simp only [negation, concat, matches_seq, matches_not, matches_optionalBlanks, matches_negationArg, matches_char]
  constructor
  · intro h
    obtain ⟨h, _, hh, ⟨a, _, ha, ⟨x, _, hx, ⟨b, _, hb, rfl, rfl⟩, rfl⟩, rfl⟩, rfl⟩ := h
    simpa using Negation.mk hh ha hx hb
  · intro h
    obtain ⟨hh, ha, hx, hb⟩ := h
    exact ⟨_, _, hh, ⟨_, _, ha, ⟨_, _, hx, ⟨_, _, hb, rfl, rfl⟩, rfl⟩, rfl⟩, by simp⟩

theorem matches_qualifier : qualifier.Matches = Qualifier := by
  ext t
  simp only [qualifier, choice, matches_alt, matches_idSelector, matches_classSelector, matches_attrib,
    matches_pseudo, matches_negation]
  constructor
  · intro h
    rcases h with h | h | h | h | h
    · exact .idSelector h
    · exact .classSelector h
    · exact .attrib h
    · exact .pseudo h
    · exact .negation h
  · intro h
    rcases h with h | h | h | h | h <;> tauto

/-- The namespace that both alternatives may begin with is read first. -/
theorem matches_elementSelector : elementSelector.Matches = fun t => TypeSelector t ∨ Universal t := by
  ext t
  simp only [elementSelector, matches_seq, matches_optional, matches_namespaceQualifier, matches_alt, matches_ident,
    matches_char]
  constructor
  · intro h
    obtain ⟨n, _, hn, hi | rfl, rfl⟩ := h
    · exact .inl (.mk hn hi)
    · exact .inr (.mk hn)
  · intro h
    rcases h with ⟨hn, hi⟩ | h
    · exact ⟨_, _, hn, .inl hi, rfl⟩
    · obtain ⟨hn⟩ := h
      exact ⟨_, _, hn, .inr rfl, rfl⟩

theorem matches_simpleSelectorSequence : simpleSelectorSequence.Matches = SimpleSelectorSequence := by
  ext t
  simp only [simpleSelectorSequence, matches_alt, matches_seq, matches_elementSelector, matches_star, matches_plus,
    matches_qualifier]
  constructor
  · intro h
    rcases h with ⟨s, q, hs | hs, hq, rfl⟩ | h
    · exact .typeSelector hs hq
    · exact .universal hs hq
    · exact .qualifiers h
  · intro h
    rcases h with ⟨hs, hq⟩ | ⟨hs, hq⟩ | h
    · exact .inl ⟨_, _, .inl hs, hq, rfl⟩
    · exact .inl ⟨_, _, .inr hs, hq, rfl⟩
    · exact .inr h

theorem matches_combinedSequence :
    (Pattern.seq combinator simpleSelectorSequence).Matches = CombinedSequence := by
  ext t
  simp only [matches_seq, matches_combinator, matches_simpleSelectorSequence]
  constructor
  · intro h
    obtain ⟨c, s, hc, hs, rfl⟩ := h
    exact .mk hc hs
  · intro h
    obtain ⟨hc, hs⟩ := h
    exact ⟨_, _, hc, hs, rfl⟩

theorem matches_selector : selector.Matches = Selector := by
  ext t
  rw [selector, matches_seq, matches_simpleSelectorSequence, matches_star, matches_combinedSequence]
  constructor
  · intro h
    obtain ⟨s, r, hs, hr, rfl⟩ := h
    exact .mk hs hr
  · intro h
    obtain ⟨hs, hr⟩ := h
    exact ⟨_, _, hs, hr, rfl⟩

private theorem matches_groupMember : (concat [comma, optionalBlanks, selector]).Matches = GroupMember := by
  ext t
  simp only [concat, comma, matches_seq, matches_optionalBlanks, matches_char, matches_selector]
  constructor
  · intro h
    obtain ⟨_, _, ⟨a, _, ha, rfl, rfl⟩, ⟨b, s, hb, hs, rfl⟩, rfl⟩ := h
    simpa using GroupMember.mk ha hb hs
  · intro h
    obtain ⟨ha, hb, hs⟩ := h
    exact ⟨_, _, ⟨_, _, ha, rfl, rfl⟩, ⟨_, _, hb, hs, rfl⟩, by simp⟩

theorem matches_selectorsGroup : selectorsGroup.Matches = SelectorsGroup := by
  ext t
  rw [selectorsGroup, matches_seq, matches_selector, matches_star, matches_groupMember]
  constructor
  · intro h
    obtain ⟨s, r, hs, hr, rfl⟩ := h
    exact .mk hs hr
  · intro h
    obtain ⟨hs, hr⟩ := h
    exact ⟨_, _, hs, hr, rfl⟩

theorem matches_sign : sign.Matches = Sign := by
  ext t
  simp only [sign, matches_oneOf, One]
  constructor
  · intro h
    obtain ⟨c, hc, rfl⟩ := h
    obtain rfl | rfl : c = '-' ∨ c = '+' := by simpa using hc
    · exact .minus
    · exact .plus
  · intro h
    rcases h with _ | _ <;> simp

theorem matches_odd : odd.Matches = Odd := by
  ext t
  simp only [odd, concat, matches_seq, matches_letterO, matches_letterD]
  constructor
  · intro h
    obtain ⟨a, _, ha, ⟨b, c, hb, hc, rfl⟩, rfl⟩ := h
    simpa using Odd.mk ha hb hc
  · intro h
    obtain ⟨ha, hb, hc⟩ := h
    exact ⟨_, _, ha, ⟨_, _, hb, hc, rfl⟩, by simp⟩

theorem matches_even : even.Matches = Even := by
  ext t
  simp only [even, concat, matches_seq, matches_letterE, matches_letterV, matches_letterN]
  constructor
  · intro h
    obtain ⟨a, _, ha, ⟨b, _, hb, ⟨c, d, hc, hd, rfl⟩, rfl⟩, rfl⟩ := h
    simpa using Even.mk ha hb hc hd
  · intro h
    obtain ⟨ha, hb, hc, hd⟩ := h
    exact ⟨_, _, ha, ⟨_, _, hb, ⟨_, _, hc, hd, rfl⟩, rfl⟩, by simp⟩

private theorem matches_nthOffset :
    (concat [optionalBlanks, sign, optionalBlanks, integer]).Matches = NthOffset := by
  ext t
  simp only [concat, integer, matches_seq, matches_optionalBlanks, matches_sign, matches_plus_digit]
  constructor
  · intro h
    obtain ⟨a, _, ha, ⟨s, _, hs, ⟨b, i, hb, hi, rfl⟩, rfl⟩, rfl⟩ := h
    simpa using NthOffset.mk ha hs hb hi
  · intro h
    obtain ⟨ha, hs, hb, hi⟩ := h
    exact ⟨_, _, ha, ⟨_, _, hs, ⟨_, _, hb, hi, rfl⟩, rfl⟩, by simp⟩

private theorem matches_coefficient :
    (concat [optional sign, optional integer, letterN,
      optional (concat [optionalBlanks, sign, optionalBlanks, integer])]).Matches = fun t =>
      ∃ s i n o, Maybe Sign s ∧ Maybe Integer i ∧ LetterN n ∧ Maybe NthOffset o ∧ t = s ++ i ++ n ++ o := by
  ext t
  rw [matches_concat_cons, matches_concat_cons, matches_concat_cons, show concat [optional _] = optional _ from rfl,
    matches_optional (p := concat _), matches_nthOffset, matches_optional, matches_optional, matches_sign, integer,
    matches_plus_digit, matches_letterN]
  constructor
  · intro h
    obtain ⟨s, _, hs, ⟨i, _, hi, ⟨n, o, hn, ho, rfl⟩, rfl⟩, rfl⟩ := h
    exact ⟨s, i, n, o, hs, hi, hn, ho, by simp⟩
  · intro h
    obtain ⟨s, i, n, o, hs, hi, hn, ho, rfl⟩ := h
    exact ⟨s, _, hs, ⟨i, _, hi, ⟨n, o, hn, ho, rfl⟩, rfl⟩, by simp⟩

private theorem matches_nthFormula :
    (choice [concat [optional sign, optional integer, letterN,
        optional (concat [optionalBlanks, sign, optionalBlanks, integer])],
      .seq (optional sign) integer, odd, even]).Matches = NthFormula := by
  ext t
  rw [matches_choice_cons, matches_choice_cons, matches_choice_cons, choice, matches_coefficient, matches_seq,
    matches_optional, matches_sign, integer, matches_plus_digit, matches_odd, matches_even]
  constructor
  · intro h
    rcases h with ⟨s, i, n, o, hs, hi, hn, ho, rfl⟩ | ⟨s, i, hs, hi, rfl⟩ | h | h
    · exact .coefficient hs hi hn ho
    · exact .constant hs hi
    · exact .odd h
    · exact .even h
  · intro h
    rcases h with ⟨hs, hi, hn, ho⟩ | ⟨hs, hi⟩ | h | h
    · exact .inl ⟨_, _, _, _, hs, hi, hn, ho, rfl⟩
    · exact .inr (.inl ⟨_, _, hs, hi, rfl⟩)
    · exact .inr (.inr (.inl h))
    · exact .inr (.inr (.inr h))

theorem matches_nth : nth.Matches = Nth := by
  ext t
  rw [nth, matches_concat_cons, matches_concat_cons, matches_nthFormula, concat, matches_optionalBlanks]
  constructor
  · intro h
    obtain ⟨a, _, ha, ⟨f, b, hf, hb, rfl⟩, rfl⟩ := h
    simpa using Nth.mk ha hf hb
  · intro h
    obtain ⟨ha, hf, hb⟩ := h
    exact ⟨_, _, ha, ⟨_, _, hf, hb, rfl⟩, by simp⟩

theorem matches_lang : lang.Matches = Lang := by
  ext t
  simp only [lang, concat, matches_seq, matches_char, matches_oneOf, matches_ident]
  constructor
  · intro h
    obtain ⟨_, _, rfl, ⟨_, _, ⟨l, hl, rfl⟩, ⟨_, _, ⟨a, ha, rfl⟩, h, rfl⟩, rfl⟩, rfl⟩ := h
    obtain ⟨_, _, ⟨n, hn, rfl⟩, ⟨_, _, ⟨g, hg, rfl⟩, ⟨_, _, rfl, ⟨i, _, hi, rfl, rfl⟩, rfl⟩, rfl⟩, rfl⟩ := h
    exact .mk (by simpa using hl) (by simpa using ha) (by simpa using hn) (by simpa using hg) hi
  · intro h
    obtain ⟨hl, ha, hn, hg, hi⟩ := h
    refine ⟨_, _, rfl, ⟨_, _, ⟨_, ?_, rfl⟩, ⟨_, _, ⟨_, ?_, rfl⟩, ⟨_, _, ⟨_, ?_, rfl⟩, ⟨_, _, ⟨_, ?_, rfl⟩,
      ⟨_, _, rfl, ⟨_, _, hi, rfl, rfl⟩, rfl⟩, rfl⟩, rfl⟩, rfl⟩, rfl⟩, rfl⟩
    · simpa using hl
    · simpa using ha
    · simpa using hn
    · simpa using hg

theorem matches_vendorPseudo : vendorPseudo.Matches = VendorPseudo := by
  ext t
  simp only [vendorPseudo, concat, matches_seq, matches_colons, matches_oneOf, matches_nameStart, matches_star,
    matches_nameChar, matches_char]
  constructor
  · intro h
    obtain ⟨c, _, hc, ⟨_, _, ⟨m, hm, rfl⟩, ⟨s, _, hs, h, rfl⟩, rfl⟩, rfl⟩ := h
    obtain ⟨u, _, hu, ⟨_, _, rfl, ⟨s', u', hs', hu', rfl⟩, rfl⟩, rfl⟩ := h
    have hm : m = '-' ∨ m = '_' := by simpa using hm
    simpa using VendorPseudo.mk hc hm hs hu hs' hu'
  · intro h
    obtain @⟨c, s, u, s', u', m, hc, hm, hs, hu, hs', hu'⟩ := h
    have hm : m ∈ "-_".toList := by simpa using hm
    exact ⟨c, _, hc, ⟨_, _, ⟨m, hm, rfl⟩, ⟨s, _, hs, ⟨u, _, hu, ⟨_, _, rfl, ⟨s', u', hs', hu', rfl⟩, rfl⟩, rfl⟩, rfl⟩,
      rfl⟩, by simp⟩

end Rule

namespace Production

theorem isUnconditional_pattern (p : Production) : p.pattern.isUnconditional := by
  cases p <;> decide +kernel

theorem matches_pattern (p : Production) : p.pattern.Matches = p.Derives := by
  cases p with
  | ident => exact Lexeme.matches_ident
  | string => exact Lexeme.matches_string
  | namespaceQualifier => exact Rule.matches_namespaceQualifier
  | combinator => exact Rule.matches_combinator
  | typeSelector => exact Rule.matches_typeSelector
  | universal => exact Rule.matches_universal
  | classSelector => exact Rule.matches_classSelector
  | idSelector => exact Rule.matches_idSelector
  | attrib => exact Rule.matches_attrib
  | expression => exact Rule.matches_expression
  | functionalPseudo => exact Rule.matches_functionalPseudo
  | pseudo => exact Rule.matches_pseudo
  | negationArg => exact Rule.matches_negationArg
  | negation => exact Rule.matches_negation
  | simpleSelectorSequence => exact Rule.matches_simpleSelectorSequence
  | selector => exact Rule.matches_selector
  | selectorsGroup => exact Rule.matches_selectorsGroup
  | nth => exact Rule.matches_nth
  | lang => exact Rule.matches_lang
  | vendorPseudo => exact Rule.matches_vendorPseudo

/-- The search decides what the pattern of a production stands for. -/
theorem accepts_iff_matches (p : Production) (t : Text) : p.accepts t = true ↔ p.pattern.Matches t :=
  Pattern.accepts_iff_matches p.isUnconditional_pattern t

/-- A production accepts exactly the texts that its rule derives. -/
theorem accepts_iff_derives (p : Production) (t : Text) : p.accepts t = true ↔ p.Derives t := by
  rw [accepts_iff_matches, matches_pattern]

end Production

end SelectorSyntax
