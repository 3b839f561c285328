import SelectorSyntax.Proofs.Grammar.Recognition
import SelectorSyntax.Proofs.Text.Balanced

/-!
# Names

A hexadecimal escape can be read in several ways: `\31 a` is one character of a name with or without the second digit,
and with or without the blank.  What one reading leaves over the others, hexadecimal digits and blanks, decides how
names are cut off from what follows.

* `NameChar.hex_or_blank_of_append`: a longer reading of an escape differs from a shorter one by such characters only.
* `many_nameChar_of_blank`: a name that has a blank in it could have ended with it.
* `catchesUp_nameChar`: the longest reading of each escape makes the longest name.
* `longestFirst_ident`, `longestFirst_name`: the search finds the longest identifier and the longest name.
-/

namespace SelectorSyntax

namespace Derivation

/-! ### Characters of names -/

/-- A character that stands for itself in a name. -/
def IsNamePlain (c : Char) : Prop :=
  IsLetter c ∨ IsDigit c ∨ c = '-' ∨ IsNonAscii c

/-- A character that a name may contain where no escape begins: it stands for itself, or it ends an escape. -/
def IsNameInner (c : Char) : Prop :=
  IsNamePlain c ∨ Text.isBlank c

instance : DecidablePred IsNamePlain := fun _ => inferInstanceAs (Decidable (_ ∨ _))

instance : DecidablePred IsNameInner := fun _ => inferInstanceAs (Decidable (_ ∨ _))

theorem IsHex.isNamePlain {c : Char} (h : IsHex c) : IsNamePlain c := by
  rcases h with h | h | h
  · exact .inr (.inl h)
  · have hle : c ≤ 'z' := Char.le_trans h.2 (by decide)
    exact .inl (.inr (.inl ⟨h.1, hle⟩))
  · have hle : c ≤ 'Z' := Char.le_trans h.2 (by decide)
    exact .inl (.inr (.inr ⟨h.1, hle⟩))

theorem isBlank_iff {c : Char} : Text.isBlank c ↔ c = ' ' ∨ c = '\t' ∨ c = '\r' ∨ c = '\n' ∨ c = '\x0c' := by
  simp [Text.isBlank, or_assoc]

theorem IsNamePlain.not_isBlank {c : Char} (h : IsNamePlain c) : ¬ Text.isBlank c := by
  rw [isBlank_iff]
  intro h
  rcases h with rfl | rfl | rfl | rfl | rfl <;> exact absurd h (by decide)

theorem IsNamePlain.ne_backslash {c : Char} (h : IsNamePlain c) : c ≠ '\\' := by
  rintro rfl
  exact absurd h (by decide)

theorem nameChar_iff {t : Text} : NameChar t ↔ (∃ c, IsNamePlain c ∧ t = [c]) ∨ Escape t := by
  constructor
  · intro h
    rcases h with h | h | _ | h | h
    · exact .inl ⟨_, .inl h, rfl⟩
    · exact .inl ⟨_, .inr (.inl h), rfl⟩
    · exact .inl ⟨_, .inr (.inr (.inl rfl)), rfl⟩
    · exact .inl ⟨_, .inr (.inr (.inr h)), rfl⟩
    · exact .inr h
  · intro h
    rcases h with ⟨c, h | h | rfl | h, rfl⟩ | h
    · exact .letter h
    · exact .digit h
    · exact .hyphen
    · exact .nonAscii h
    · exact .escape h

theorem EscapeEnd.isBlank {c : Char} {t : Text} (h : EscapeEnd (c :: t)) : Text.isBlank c := by
  cases h with
  | both => rfl
  | blank hc => exact hc

theorem EscapeEnd.blanks {t : Text} (h : EscapeEnd t) : Blanks t := by
  rcases h with _ | _ | hc
  · simp [Blanks]
  · simp [Blanks, Text.isBlank]
  · simpa [Blanks] using hc

/-- An escaped character that is no hexadecimal digit stands alone, and a digit has only digits and blanks after
it. -/
theorem Escape.shape {t : Text} (h : Escape t) : ∃ c u, t = '\\' :: c :: u ∧
    (¬ IsHex c ∧ u = [] ∨ IsHex c ∧ ∀ d ∈ u, IsHex d ∨ Text.isBlank d) := by
  rcases h with h | ⟨-, -, -, hc⟩
  · obtain @⟨digits, e, hdigits, hleast, -, he⟩ := h
    obtain ⟨c, digits, rfl⟩ := List.exists_cons_of_length_pos hleast
    rw [List.forall_mem_cons] at hdigits
    refine ⟨c, digits ++ e, rfl, .inr ⟨hdigits.1, fun d hd => ?_⟩⟩
    rcases List.mem_append.1 hd with hd | hd
    · exact .inl (hdigits.2 d hd)
    · exact .inr (he.blanks d hd)
  · exact ⟨_, [], rfl, .inl ⟨hc, rfl⟩⟩

theorem NameStart.nameChar {t : Text} (h : NameStart t) : NameChar t := by
  rcases h with h | h | h
  · exact .letter h
  · exact .nonAscii h
  · exact .escape h

theorem NameStart.head {t : Text} (h : NameStart t) : ∃ c u, t = c :: u ∧ (c = '\\' ∨ IsLetter c ∨ IsNonAscii c) := by
  rcases h with h | h | h
  · exact ⟨_, _, rfl, .inr (.inl h)⟩
  · exact ⟨_, _, rfl, .inr (.inr h)⟩
  · obtain ⟨c, u, rfl, -⟩ := h.shape
    exact ⟨_, _, rfl, .inl rfl⟩

theorem NameChar.eq_singleton {c : Char} {t : Text} (h : NameChar (c :: t)) (hc : c ≠ '\\') :
    IsNamePlain c ∧ t = [] := by
  rcases nameChar_iff.1 h with ⟨d, hd, heq⟩ | h
  · obtain ⟨rfl, rfl⟩ := List.cons.inj heq
    exact ⟨hd, rfl⟩
  · obtain ⟨_, _, heq, -⟩ := h.shape
    exact absurd (List.cons.inj heq).1 hc

theorem not_nameChar_nil : ¬ NameChar [] := by
  intro h
  rcases nameChar_iff.1 h with ⟨_, _, heq⟩ | h
  · cases heq
  · obtain ⟨_, _, heq, -⟩ := h.shape
    cases heq

theorem NameChar.head (h : NameChar t) : ∃ c u, t = c :: u ∧ (IsNamePlain c ∨ c = '\\') := by
  rcases nameChar_iff.1 h with ⟨c, hc, rfl⟩ | h
  · exact ⟨c, [], rfl, .inl hc⟩
  · obtain ⟨c, u, rfl, -⟩ := h.shape
    exact ⟨_, _, rfl, .inr rfl⟩

/-- No character of a name begins with a blank. -/
theorem NameChar.not_isBlank {c : Char} {t : Text} (h : NameChar (c :: t)) : ¬ Text.isBlank c := by
  by_cases hc : c = '\\'
  · rw [hc]
    decide
  · exact (h.eq_singleton hc).1.not_isBlank

theorem NameChar.hex_or_blank_of_append {x z : Text} (hx : NameChar x) (hxz : NameChar (x ++ z)) :
    ∀ c ∈ z, IsHex c ∨ Text.isBlank c := by
  rcases nameChar_iff.1 hx with ⟨c, hc, rfl⟩ | hx
  · obtain rfl : z = [] := (hxz.eq_singleton hc.ne_backslash).2
    exact List.forall_mem_nil _
  · obtain ⟨c, u, rfl, -⟩ := hx.shape
    rcases nameChar_iff.1 hxz with ⟨_, _, heq⟩ | hxz
    · cases heq
    · obtain ⟨d, v, heq, hv⟩ := hxz.shape
      simp only [List.cons_append, List.cons.injEq, true_and] at heq
      obtain ⟨rfl, rfl⟩ := heq
      rcases hv with ⟨-, hnil⟩ | ⟨-, hv⟩
      · rw [(List.append_eq_nil_iff.1 hnil).2]
        exact List.forall_mem_nil _
      · exact fun d hd => hv d (List.mem_append_right _ hd)

theorem escaping_of_inner {t : Text} (h : ∀ c ∈ t, IsNameInner c) : Escaping IsNameInner t := by
  refine escaping_of_forall fun c hc => ⟨?_, h c hc⟩
  rintro rfl
  exact absurd (h _ hc) (by decide)

theorem NameChar.escaping {t : Text} (h : NameChar t) : Escaping IsNameInner t := by
  rcases nameChar_iff.1 h with ⟨c, hc, rfl⟩ | h
  · exact .plain hc.ne_backslash (.inl hc) .nil
  · obtain ⟨c, u, rfl, hu⟩ := h.shape
    refine .pair (escaping_of_inner fun d hd => ?_)
    rcases hu with ⟨-, rfl⟩ | ⟨-, hu⟩
    · cases hd
    · exact (hu d hd).imp_left IsHex.isNamePlain

theorem escaping_of_many_nameChar {t : Text} (h : Many NameChar t) : Escaping IsNameInner t := by
  induction h with
  | nil => exact .nil
  | cons hx _ ih => exact hx.escaping.append ih

theorem Ident.many_nameChar {t : Text} (h : Ident t) : Many NameChar t := by
  obtain @⟨h, s, u, hh, hs, hu⟩ := h
  rw [List.append_assoc]
  rcases hh with _ | rfl
  · exact Many.cons (x := s) hs.nameChar hu
  · exact .cons .hyphen (.cons hs.nameChar hu)

theorem Ident.escaping {t : Text} (h : Ident t) : Escaping IsNameInner t :=
  escaping_of_many_nameChar h.many_nameChar

/-- The characters that an identifier may begin with. -/
def IsNameHead (c : Char) : Prop :=
  c = '-' ∨ c = '\\' ∨ IsLetter c ∨ IsNonAscii c

instance : DecidablePred IsNameHead := fun _ => inferInstanceAs (Decidable (_ ∨ _))

theorem Ident.head {t : Text} (h : Ident t) : ∃ c u, t = c :: u ∧ IsNameHead c := by
  obtain @⟨h, s, u, hh, hs, hu⟩ := h
  rcases hh with _ | rfl
  · obtain ⟨c, v, rfl, hc⟩ := hs.head
    exact ⟨c, v ++ u, rfl, .inr hc⟩
  · exact ⟨'-', s ++ u, rfl, .inl rfl⟩

theorem Ident.ne_nil {t : Text} (h : Ident t) : t ≠ [] := by
  obtain ⟨c, u, rfl, -⟩ := h.head
  exact List.cons_ne_nil _ _

theorem Name.ne_nil {t : Text} (h : Name t) : t ≠ [] := by
  obtain ⟨hx, -⟩ := h
  obtain ⟨c, u, rfl, -⟩ := hx.head
  exact List.cons_ne_nil _ _

/-! ### Blanks in a name -/

/-- The blank `b` can end an escape that `c` ends: it is the same one, or `c` is a space, which is never the second half
of a line end. -/
def EndsAs (b c : Char) : Prop :=
  b = c ∨ c = ' ' ∧ Text.isBlank b

/-- An escape that goes on after a blank could have ended with it. -/
theorem EscapeEnd.of_append {b c : Char} {e z : Text} (hb : EndsAs b c) (h : EscapeEnd (e ++ c :: z)) :
    EscapeEnd (e ++ [b]) := by
  match e with
  | [] =>
    rcases hb with rfl | ⟨-, hb⟩
    · exact .blank h.isBlank
    · exact .blank hb
  | [d] =>
    cases h with
    | both =>
      obtain rfl : b = '\n' := hb.resolve_right fun h => absurd h.1 (by decide)
      exact .both
  | [_, _] => cases h
  | _ :: _ :: _ :: _ => cases h

theorem NameChar.of_append {b c : Char} {x z : Text} (hx : Escaping IsNameInner x) (hc : Text.isBlank c)
    (hb : EndsAs b c) (h : NameChar (x ++ c :: z)) : NameChar (x ++ [b]) := by
  have hcons : ∃ d u, x = '\\' :: d :: u := by
    cases hx with
    | nil => exact absurd hc h.not_isBlank
    | plain hne _ _ => simpa using (h.eq_singleton hne).2
    | pair _ => exact ⟨_, _, rfl⟩
  obtain ⟨d, u, rfl⟩ := hcons
  rcases nameChar_iff.1 h with ⟨_, _, heq⟩ | h
  · cases heq
  · generalize ht : '\\' :: d :: u ++ c :: z = t at h
    rcases h with @⟨_, digits, e, hdigits, hleast, hmost, he⟩ | _
    · have heq : d :: u ++ c :: z = digits ++ e := (List.cons.inj ht).2
      -- the blank is none of the digits, so it belongs to the end of the escape
      obtain ⟨a, hu, rfl⟩ : ∃ a, d :: u = digits ++ a ∧ e = a ++ c :: z := by
        rcases List.append_eq_append_iff.1 heq with ⟨a, ha, hcz⟩ | ⟨a, ha, he⟩
        · cases a with
          | nil => exact ⟨[], by simpa using ha.symm, by simpa using hcz.symm⟩
          | cons b a =>
            obtain rfl := (List.cons.inj hcz).1
            have hhex : IsHex c := hdigits c (by simp [ha])
            exact absurd hc hhex.isNamePlain.not_isBlank
        · exact ⟨a, ha, he⟩
      rw [hu, List.cons_append, List.append_assoc]
      exact .escape (.hex (.mk hdigits hleast hmost (he.of_append hb)))
    · simp at ht

/-- A name that goes on after a blank could have ended with it, or with any blank if it is a space. -/
theorem many_nameChar_of_endsAs {b c : Char} {x z : Text} (hx : Escaping IsNameInner x) (hc : Text.isBlank c)
    (hb : EndsAs b c) (h : Many NameChar (x ++ c :: z)) : Many NameChar (x ++ [b]) := by
  generalize ht : x ++ c :: z = t at h
  induction h generalizing x with
  | nil => simp at ht
  | @cons w y hw hy ih =>
    rcases List.append_eq_append_iff.1 ht with ⟨a, rfl, hcz⟩ | ⟨a, rfl, hy'⟩
    · cases a with
      | nil =>
        obtain rfl : c :: z = y := hcz
        obtain ⟨_, _, -, hchar, -⟩ := hy.exists_of_cons
        exact absurd hc hchar.not_isBlank
      | cons d a =>
        obtain rfl := (List.cons.inj hcz).1
        exact .one (hw.of_append hx hc hb)
    · rw [List.append_assoc]
      exact .cons hw (ih (hw.escaping.right hx) hy'.symm)

theorem many_nameChar_of_blank {c : Char} {x z : Text} (hx : Escaping IsNameInner x) (hc : Text.isBlank c)
    (h : Many NameChar (x ++ c :: z)) : Many NameChar (x ++ [c]) :=
  many_nameChar_of_endsAs hx hc (.inl rfl) h

/-! ### The longest name -/

/-- Hexadecimal digits at the beginning of characters of names are such characters themselves. -/
theorem many_nameChar_of_append {z t : Text} (hz : ∀ c ∈ z, IsHex c ∨ Text.isBlank c) (h : Many NameChar (z ++ t)) :
    Many NameChar t := by
  induction z with
  | nil => exact h
  | cons c z ih =>
    rw [List.forall_mem_cons] at hz
    obtain ⟨x, y, heq, hx, hy⟩ := h.exists_of_cons
    have hc : IsHex c := hz.1.resolve_right hx.not_isBlank
    obtain rfl := (hx.eq_singleton hc.isNamePlain.ne_backslash).2
    obtain rfl : z ++ t = y := heq
    exact ih hz.2 hy

/-- Where the longest reading of a character ends, what was read as characters of a name goes on as such. -/
theorem many_nameChar_of_longest {P : Text → Prop} (hP : ∀ x, P x → NameChar x) {x y z r : Text}
    (hz : Longest P (z ++ r) z) (hx : P x) (hy : Many NameChar y) (heq : x ++ y = z ++ r) : Many NameChar r := by
  obtain ⟨u, rfl⟩ := hz.prefix_of hx ⟨y, heq⟩
  have hu : ∀ c ∈ u, IsHex c ∨ Text.isBlank c := (hP x hx).hex_or_blank_of_append (hP _ hz.holds)
  rw [List.append_assoc] at heq
  obtain rfl : y = u ++ r := List.append_cancel_left heq
  exact many_nameChar_of_append hu hy

theorem catchesUp_nameChar {P : Text → Prop} (hP : ∀ x, P x → NameChar x) : CatchesUp P (Many NameChar) :=
  catchesUp_of_nil .nil fun hz hx hy heq => many_nameChar_of_longest hP hz hx hy heq

theorem NameChar.nameStart {c : Char} {t : Text} (h : NameChar (c :: t)) (hc : c = '\\' ∨ IsLetter c ∨ IsNonAscii c) :
    NameStart (c :: t) := by
  rcases nameChar_iff.1 h with ⟨d, hd, heq⟩ | h
  · obtain ⟨rfl, rfl⟩ := List.cons.inj heq
    rcases hc with rfl | hc | hc
    · exact absurd rfl hd.ne_backslash
    · exact .letter hc
    · exact .nonAscii hc
  · exact .escape h

/-- An identifier is characters of names that do not begin with a digit or a hyphen, after one hyphen at most. -/
theorem ident_iff {t : Text} : Ident t ↔ Many NameChar t ∧ ∃ h c u, Maybe (· = ['-']) h ∧
    (c = '\\' ∨ IsLetter c ∨ IsNonAscii c) ∧ t = h ++ c :: u := by
  constructor
  · intro hi
    refine ⟨hi.many_nameChar, ?_⟩
    obtain @⟨h, s, u, hh, hs, -⟩ := hi
    obtain ⟨c, v, rfl, hc⟩ := hs.head
    exact ⟨h, c, v ++ u, hh, hc, by simp⟩
  · rintro ⟨ht, h, c, u, hh, hc, rfl⟩
    have hrest : Many NameChar (c :: u) := by
      rcases hh with _ | rfl
      · exact ht
      · obtain ⟨x, y, heq, hx, hy⟩ := ht.exists_of_cons
        obtain rfl := (hx.eq_singleton (by decide)).2
        obtain rfl : c :: u = y := heq
        exact hy
    obtain ⟨x, y, rfl, hx, hy⟩ := hrest.exists_of_cons
    rw [← List.cons_append, ← List.append_assoc]
    exact .mk hh (hx.nameStart hc) hy

/-- Characters of names that an identifier begins with make an identifier. -/
theorem Ident.of_prefix {i t : Text} (hi : Ident i) (ht : Many NameChar t) (hit : i <+: t) : Ident t := by
  obtain ⟨-, h, c, u, hh, hc, rfl⟩ := ident_iff.1 hi
  obtain ⟨w, rfl⟩ := hit
  exact ident_iff.2 ⟨ht, h, c, u ++ w, hh, hc, by simp⟩

/-- An identifier that goes on after a blank could have ended with it, or with any blank if it is a space. -/
theorem Ident.of_endsAs {b c : Char} {x z : Text} (hx : Escaping IsNameInner x) (hc : Text.isBlank c) (hb : EndsAs b c)
    (hi : Ident (x ++ c :: z)) : Ident (x ++ [b]) := by
  obtain ⟨ht, h, d, u, hh, hd, heq⟩ := ident_iff.1 hi
  have hblank : ¬ Text.isBlank d := by
    rcases hd with rfl | hd | hd
    · decide
    · exact IsNamePlain.not_isBlank (.inl hd)
    · exact IsNamePlain.not_isBlank (.inr (.inr (.inr hd)))
  have hhyphen : ∀ e ∈ h, e = '-' := by
    rcases hh with _ | rfl <;> simp
  -- neither the hyphen nor what follows it is the blank
  obtain ⟨v, rfl⟩ : ∃ v, x = h ++ d :: v := by
    rcases List.append_eq_append_iff.1 heq with ⟨a, rfl, hcz⟩ | ⟨a, rfl, hdu⟩
    · cases a with
      | nil => exact absurd ((List.cons.inj hcz).1 ▸ hc) hblank
      | cons e a =>
        obtain rfl := (List.cons.inj hcz).1
        obtain rfl := hhyphen c (by simp)
        exact absurd hc (by decide)
    · cases a with
      | nil => exact absurd ((List.cons.inj hdu).1 ▸ hc) hblank
      | cons e a =>
        obtain rfl := (List.cons.inj hdu).1
        exact ⟨a, rfl⟩
  exact ident_iff.2 ⟨many_nameChar_of_endsAs hx hc hb ht, h, d, v ++ [b], hh, hd, by simp⟩

theorem Name.of_endsAs {b c : Char} {x z : Text} (hx : Escaping IsNameInner x) (hc : Text.isBlank c) (hb : EndsAs b c)
    (h : Name (x ++ c :: z)) : Name (x ++ [b]) := by
  have hmany := many_nameChar_of_endsAs hx hc hb h.many
  generalize ht : x ++ [b] = t at hmany
  cases hmany with
  | nil => simp at ht
  | cons hw hy => exact .cons hw hy

theorem Name.of_prefix {n t : Text} (hn : Name n) (ht : Many NameChar t) (hnt : n <+: t) : Name t := by
  cases ht with
  | nil => exact absurd (List.prefix_nil.1 hnt) hn.ne_nil
  | cons hx hy => exact .cons hx hy

/-- The longest identifier at a place is also the longest row of characters of names. -/
theorem longest_many_of_ident {t i : Text} (hi : Longest Ident t i) : Longest (Many NameChar) t i := by
  refine ⟨hi.holds.many_nameChar, hi.isPrefix, fun w hw hwt => ?_⟩
  rcases Nat.le_total w.length i.length with hle | hle
  · exact hle
  · have hiw : i <+: w := List.prefix_of_prefix_length_le hi.isPrefix hwt hle
    have hw : Ident w := hi.holds.of_prefix hw hiw
    exact hi.greatest w hw hwt

theorem longest_many_of_name {t n : Text} (hn : Longest Name t n) : Longest (Many NameChar) t n := by
  refine ⟨hn.holds.many, hn.isPrefix, fun w hw hwt => ?_⟩
  cases hw with
  | nil => exact Nat.zero_le _
  | cons hx hy => exact hn.greatest _ (.cons hx hy) hwt

/-- A name ends where a character stands that no name has. -/
theorem longest_of_stop {P : Text → Prop} {c : Char} {x s : Text} (hP : ∀ y, P y → Escaping IsNameInner y) (hx : P x)
    (hc : ¬ (c = '\\' ∨ IsNameInner c)) : Longest P (x ++ c :: s) x := by
  refine longest_of_eq_nil hx fun z hz hzs => ?_
  cases z with
  | nil => rfl
  | cons d z =>
    obtain rfl := (List.cons_prefix_cons.1 hzs).1
    exact absurd ((hP x hx).allowed_of_append (hP _ hz)) hc

theorem longest_ident_of_stop {c : Char} {i s : Text} (hi : Ident i) (hc : ¬ (c = '\\' ∨ IsNameInner c)) :
    Longest Ident (i ++ c :: s) i :=
  longest_of_stop (fun _ => Ident.escaping) hi hc

end Derivation

/-! ### The search -/

theorem prefixFree_one (S : Char → Prop) : PrefixFree (One S) := by
  rintro _ y ⟨c, _, rfl⟩ ⟨d, _, heq⟩
  exact (List.cons.inj heq).2

theorem prefixFree_eq (w : Text) : PrefixFree (· = w) := by
  rintro x y rfl h
  exact List.append_right_eq_self.1 h

namespace Lexeme

open Pattern SelectorSyntax.Derivation

theorem longestFirst_char (c : Char) : (char c).LongestFirst :=
  longestFirst_of_prefixFree (prefixFree_one _)

/-- A character that stands for itself, or else something that a backslash begins. -/
private theorem longestFirst_alt_one {p q : Pattern} {S : Char → Prop} (hp : p.Matches = One S) (hS : ¬ S '\\')
    (hq : q.LongestFirst) (h : ∀ y, q.Matches y → y.length ≤ 1 ∨ ∃ u, y = '\\' :: u) :
    (Pattern.alt p q).LongestFirst := by
  refine (longestFirst_of_prefixFree (hp ▸ prefixFree_one S)).alt hq fun t x y hx hy ht => ?_
  obtain ⟨c, hc, rfl⟩ := hp ▸ hx.holds
  rcases h y hy with hlen | ⟨u, rfl⟩
  · exact hlen
  · obtain ⟨_, rfl⟩ := ht
    obtain rfl := (List.cons_prefix_cons.1 hx.isPrefix).1
    exact absurd hc hS

private theorem longestFirst_escapeEnd : escapeEnd.LongestFirst := by
  refine LongestFirst.optional (LongestFirst.alt ?_ ?_ ?_)
  · exact longestFirst_of_prefixFree (matches_word _ ▸ prefixFree_eq _)
  · exact longestFirst_of_prefixFree (prefixFree_one _)
  · rintro t x y hx ⟨c, -, rfl⟩ -
    rw [matches_word] at hx
    rw [hx.holds]
    exact Nat.le_of_ble_eq_true rfl

private theorem longestFirst_hexEscape : hexEscape.LongestFirst := by
  refine (longestFirst_char '\\').seq (LongestFirst.seq ?_ longestFirst_escapeEnd ?_) ((prefixFree_one _).catchesUp _)
  · refine longestFirst_rounds_of_prefixFree (p := hexDigit) (prefixFree_one _) ?_ 1 (some 6)
    intro h
    obtain ⟨_, _, h⟩ := h
    cases h
  · rw [matches_rounds_one matches_hexDigit true (by decide), concat, matches_escapeEnd]
    refine catchesUp_of_nil .absent fun {z r x y} hz hx hy heq => ?_
    obtain ⟨u, rfl⟩ := hz.prefix_of hx ⟨y, heq⟩
    rw [List.append_assoc] at heq
    obtain rfl := List.append_cancel_left heq
    cases u with
    | nil => exact hy
    | cons c u =>
      have hc : IsHex c := hz.holds.1 c (by simp)
      exact absurd (EscapeEnd.isBlank hy) hc.isNamePlain.not_isBlank

private theorem longestFirst_escape : escape.LongestFirst := by
  refine longestFirst_hexEscape.alt ((longestFirst_char '\\').seq ?_ ((prefixFree_one _).catchesUp _)) ?_
  · exact longestFirst_of_prefixFree (prefixFree_one _)
  · rintro t x y hx ⟨_, _, ⟨c, -, rfl⟩, ⟨d, -, rfl⟩, rfl⟩ -
    rw [matches_hexEscape] at hx
    obtain ⟨-, hleast, -, -⟩ := hx.holds
    simp
    omega

private theorem escape_begins {y : Text} (h : escape.Matches y) : ∃ u, y = '\\' :: u := by
  rw [matches_escape] at h
  obtain ⟨c, u, rfl, -⟩ := h.shape
  exact ⟨_, rfl⟩

private theorem longestFirst_nonAscii_or_escape : (Pattern.alt nonAscii escape).LongestFirst :=
  longestFirst_alt_one matches_nonAscii (by decide) longestFirst_escape fun _ hy => .inr (escape_begins hy)

private theorem longestFirst_within_or_more {set : CharSet} (h : ¬ set.contains '\\') :
    (Pattern.alt (.chars set) (.alt nonAscii escape)).LongestFirst := by
  refine longestFirst_alt_one (matches_chars _) h longestFirst_nonAscii_or_escape fun y hy => ?_
  rcases hy with hy | hy
  · rw [matches_nonAscii] at hy
    obtain ⟨c, -, rfl⟩ := hy
    exact .inl (Nat.le_refl _)
  · exact .inr (escape_begins hy)

theorem longestFirst_nameStart : nameStart.LongestFirst :=
  longestFirst_within_or_more (by decide)

theorem longestFirst_nameChar : nameChar.LongestFirst :=
  longestFirst_within_or_more (by decide)

private theorem not_matches_nameChar_nil : ¬ nameChar.Matches [] := by
  rw [matches_nameChar]
  exact not_nameChar_nil

private theorem catchesUp_star_nameChar : CatchesUp nameChar.Matches (star nameChar).Matches := by
  rw [matches_star, matches_nameChar]
  exact catchesUp_nameChar fun _ h => h

theorem longestFirst_name : name.LongestFirst :=
  longestFirst_nameChar.plus not_matches_nameChar_nil catchesUp_star_nameChar

theorem longestFirst_nameStart_star : (Pattern.seq nameStart (star nameChar)).LongestFirst := by
  have hstar : (star nameChar).LongestFirst :=
    longestFirst_nameChar.star not_matches_nameChar_nil catchesUp_star_nameChar
  refine longestFirst_nameStart.seq hstar ?_
  rw [matches_nameStart, matches_star, matches_nameChar]
  exact catchesUp_nameChar fun _ h => h.nameChar

theorem longestFirst_ident : ident.LongestFirst := by
  refine LongestFirst.seq (longestFirst_char '-').optional longestFirst_nameStart_star ?_
  -- no character that starts a name is a hyphen
  rw [matches_optional, matches_char, matches_concat_cons, matches_nameStart]
  apply (prefixFree_eq _).catchesUp_maybe
  rintro x _ t rfl ⟨s, u, hs, -, rfl⟩ ⟨r, rfl⟩ ⟨r', heq⟩
  obtain ⟨c, v, rfl, hc⟩ := hs.head
  obtain rfl : c = '-' := (List.cons.inj heq).1
  exact absurd hc (by decide)

end Lexeme

end SelectorSyntax
