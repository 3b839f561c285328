import SelectorSyntax.Pattern.Class
import SelectorSyntax.Proofs.Grammar.Argument
import SelectorSyntax.Pseudo

/-!
# Spellings of the keywords

The keywords `not`, `odd` and `even` may be spelled with escapes.  `Text.unescape` reads the escapes of a text from left
to right, a hexadecimal one with as many digits as it can have, and a spelling is right if what is read is the keyword.

The rules of the letters ask for the digits of a letter only, and do not look at what comes next.  If that is a
hexadecimal digit, the escape reads on into it, and stands for another character: `\6fdd` is spelled like `odd`, but is
one letter, U+6FDD.  Only a `d` or an `e` that stands for itself can be read so.  Hence the spellings that are right are
those that do not run on (`RunsOn`), by one step for each letter (`Spelling.reads_iff`).
-/

namespace SelectorSyntax

open SelectorSyntax.Derivation

variable {t u x y rest digits zeros : Text} {c d ℓ : Char}

/-! ### Reading escapes -/

namespace Text

open Pattern.Reader

/-- The character with the code point that the hexadecimal digits write, or U+FFFD if there is none. -/
def escapedChar (digits : Text) : Char :=
  (hexChar? digits).getD '\ufffd'

/-- The digits of an escape: the longest run of hexadecimal digits, but six at most. -/
def escapeDigits (t : Text) : Text :=
  (t.take 6).takeWhile (IsHex ·)

/-- Drops the blank that ends a hexadecimal escape. -/
def dropEscapeEnd : Text → Text
  | '\r' :: '\n' :: t => t
  | c :: t => if isBlank c then t else c :: t
  | [] => []

theorem length_dropEscapeEnd_le (t : Text) : (dropEscapeEnd t).length ≤ t.length := by
  unfold dropEscapeEnd
  split
  · simp only [List.length_cons]
    omega
  · split <;> simp
  · rfl

/-- The text that is meant by a text with escapes. -/
def unescape : Text → Text
  | [] => []
  | ['\\'] => ['\\']
  | '\\' :: c :: t =>
    if IsHex c then
      escapedChar (escapeDigits (c :: t)) :: unescape (dropEscapeEnd ((c :: t).drop (escapeDigits (c :: t)).length))
    else c :: unescape t
  | c :: t => c :: unescape t
termination_by t => t.length
decreasing_by
  · have h := length_dropEscapeEnd_le ((c :: t).drop (escapeDigits (c :: t)).length)
    simp only [List.length_drop, List.length_cons] at h ⊢
    omega
  · simp only [List.length_cons]
    omega
  · simp

theorem unescape_cons_of_ne (h : c ≠ '\\') : unescape (c :: t) = c :: unescape t := by
  rw [unescape.eq_def]
  split <;> simp_all

theorem unescape_pair (h : ¬ IsHex c) : unescape ('\\' :: c :: t) = c :: unescape t := by
  rw [unescape.eq_def]
  simp [h]

theorem unescape_hex (h : ∃ c ∈ t.head?, IsHex c) : unescape ('\\' :: t) =
    escapedChar (escapeDigits t) :: unescape (dropEscapeEnd (t.drop (escapeDigits t).length)) := by
  obtain ⟨c, hc, hhex⟩ := h
  obtain ⟨u, rfl⟩ := List.head?_eq_some_iff.1 hc
  rw [unescape.eq_def]
  simp [hhex]

theorem escapeDigits_append (hdigits : ∀ c ∈ digits, IsHex c) (hlen : digits.length ≤ 6)
    (hrest : digits.length < 6 → ∀ c ∈ rest.head?, ¬ IsHex c) : escapeDigits (digits ++ rest) = digits := by
  rw [escapeDigits, List.take_append, List.take_of_length_le hlen,
    List.takeWhile_append_of_pos (by simpa using hdigits)]
  by_cases hlt : digits.length < 6
  · cases rest with
    | nil => simp
    | cons c t =>
      obtain ⟨n, hn⟩ : ∃ n, 6 - digits.length = n + 1 := ⟨5 - digits.length, by omega⟩
      simp [hn, hrest hlt c rfl]
  · simp [show 6 - digits.length = 0 by omega]

theorem exists_escapeDigits_of_hex (hdigits : ∀ c ∈ digits, IsHex c) (hlen : digits.length < 6) (hd : IsHex d) :
    ∃ y, escapeDigits (digits ++ d :: t) = digits ++ d :: y := by
  obtain ⟨n, hn⟩ : ∃ n, 6 - digits.length = n + 1 := ⟨5 - digits.length, by omega⟩
  refine ⟨(t.take n).takeWhile (IsHex ·), ?_⟩
  rw [escapeDigits, List.take_append, List.take_of_length_le hlen.le,
    List.takeWhile_append_of_pos (by simpa using hdigits)]
  simp [hn, hd]

theorem dropEscapeEnd_append {e : Text} (he : EscapeEnd e) (hrest : ∀ c ∈ rest.head?, ¬ isBlank c) :
    dropEscapeEnd (e ++ rest) = rest := by
  rcases he with _ | _ | hc
  · rw [List.nil_append]
    unfold dropEscapeEnd
    split
    · exact absurd rfl (hrest _ rfl)
    · exact if_neg (hrest _ rfl)
    · rfl
  · rfl
  · rw [List.singleton_append]
    unfold dropEscapeEnd
    split
    · rename_i heq
      rw [(List.cons.inj heq).2] at hrest
      exact absurd rfl (hrest _ rfl)
    · rename_i heq
      obtain ⟨rfl, rfl⟩ := List.cons.inj heq
      exact if_pos hc
    · contradiction

/-! ### Code points -/

/-- A number with one more hexadecimal digit. -/
def shift? (n : Nat) (c : Char) : Option Nat :=
  (hexValue? c).map (16 * n + ·)

theorem shift?_eq_some_iff {n m : Nat} : shift? n c = some m ↔ ∃ v, hexValue? c = some v ∧ 16 * n + v = m :=
  Option.map_eq_some_iff

theorem le_of_shifts {n m : Nat} (h : digits.foldlM shift? n = some m) : n ≤ m := by
  induction digits generalizing n with
  | nil => exact (Option.some.inj h).le
  | cons c digits ih =>
    simp only [List.foldlM_cons, Option.bind_eq_bind, Option.bind_eq_some_iff, shift?_eq_some_iff] at h
    obtain ⟨_, ⟨v, -, rfl⟩, h⟩ := h
    have hle := ih h
    omega

theorem shifts_zeros (hz : ∀ c ∈ zeros, c = '0') : zeros.foldlM shift? 0 = some 0 := by
  induction zeros with
  | nil => rfl
  | cons c zeros ih =>
    rw [List.forall_mem_cons] at hz
    rw [hz.1, List.foldlM_cons]
    exact ih hz.2

theorem hexChar?_eq (digits : Text) : hexChar? digits = if digits.isEmpty then none else
    (digits.foldlM shift? 0).bind fun n => if n.isValidChar then some (Char.ofNat n) else none := rfl

theorem shifts_of_hexChar? (h : hexChar? digits = some c) : digits.foldlM shift? 0 = some c.toNat := by
  rw [hexChar?_eq] at h
  split at h
  · cases h
  · obtain ⟨n, hn, h⟩ := Option.bind_eq_some_iff.1 h
    split at h
    · rename_i hvalid
      obtain rfl := Option.some.inj h
      rw [hn, Char.ofNat, dif_pos hvalid]
      rfl
    · cases h

/-- Zeros in front change nothing. -/
theorem escapedChar_zeros (hz : ∀ c ∈ zeros, c = '0') (hne : digits ≠ []) :
    escapedChar (zeros ++ digits) = escapedChar digits := by
  have hall := List.append_ne_nil_of_right_ne_nil zeros hne
  simp [escapedChar, hexChar?_eq, hne, hall, List.foldlM_append, shifts_zeros hz]

theorem one_le_of_hexValue? {v : Nat} (h : hexValue? c = some v) (hne : c ≠ '0') : 1 ≤ v := by
  unfold hexValue? at h
  split at h
  · rename_i hdigit
    have hle : '0'.toNat ≤ c.toNat := by
      simp only [Char.isDigit, Bool.and_eq_true, decide_eq_true_eq] at hdigit
      exact hdigit.1
    have hval : c.toNat ≠ '0'.toNat := fun heq => hne (Char.toNat_inj.1 heq)
    obtain rfl := Option.some.inj h
    omega
  · split at h
    · obtain rfl := Option.some.inj h
      omega
    · split at h
      · obtain rfl := Option.some.inj h
        omega
      · cases h

end Text

namespace Derivation

open Text Pattern.Reader

/-! ### Escapes that run on -/

/-- The digits that stand for a letter: its two digits, after zeros. -/
inductive LetterDigits : Text → Prop
  | mk {zeros : Text} {h l : Char} : (∀ c ∈ zeros, c = '0') → IsHex h → h ≠ '0' → IsHex l →
      LetterDigits (zeros ++ [h, l])

/-- The digits of a letter, fewer than an escape may have, and another hexadecimal digit after them. -/
inductive ReadsOn : Text → Prop
  | mk {digits t : Text} {d : Char} : LetterDigits digits → digits.length < 6 → IsHex d → ReadsOn (digits ++ d :: t)

/-- The first text is an escape that is read on into the second one. -/
def ReadsInto (x rest : Text) : Prop :=
  ∃ s, x = '\\' :: s ∧ ReadsOn (s ++ rest)

/-- Somewhere after a backslash the digits of a letter are read on. -/
def RunsOn : Text → Prop
  | [] => False
  | c :: t => c = '\\' ∧ ReadsOn t ∨ RunsOn t

theorem LetterDigits.forall_isHex (h : LetterDigits digits) : ∀ c ∈ digits, IsHex c := by
  obtain ⟨hz, hh, -, hl⟩ := h
  intro c hc
  rcases List.mem_append.1 hc with hc | hc
  · rw [hz c hc]
    decide
  · rcases List.mem_pair.1 hc with rfl | rfl
    · exact hh
    · exact hl

theorem LetterDigits.exists_head (h : LetterDigits digits) : ∃ c ∈ (digits ++ t).head?, IsHex c := by
  have hhex := h.forall_isHex
  obtain @⟨zeros, a, b, -, -, -, -⟩ := h
  cases zeros with
  | nil => exact ⟨a, rfl, hhex a (List.mem_cons_self ..)⟩
  | cons c zeros => exact ⟨c, rfl, hhex c (List.mem_cons_self ..)⟩

/-- Where the digits of a letter end is told by the text. -/
theorem LetterDigits.eq_of_append (hx : LetterDigits x) (hy : LetterDigits y) (h : x ++ t = y ++ u) : x = y := by
  obtain @⟨zeros, b, l, hz, -, hb, -⟩ := hx
  obtain @⟨zeros', b', l', hz', -, hb', -⟩ := hy
  simp only [List.append_assoc, List.cons_append, List.nil_append] at h
  have hdrop := congrArg (List.dropWhile (· = '0')) h
  rw [List.dropWhile_append_of_pos (by simpa using hz), List.dropWhile_append_of_pos (by simpa using hz'),
    List.dropWhile_cons_of_neg (by simpa using hb), List.dropWhile_cons_of_neg (by simpa using hb')] at hdrop
  rw [hdrop] at h
  simp only [List.cons.injEq] at hdrop
  obtain ⟨rfl, rfl, -⟩ := hdrop
  rw [List.append_cancel_right h]

/-- What is read with one more digit is no letter. -/
theorem LetterDigits.le_escapedChar (h : LetterDigits digits) : 128 ≤ (escapedChar (digits ++ d :: t)).toNat := by
  cases hchar : hexChar? (digits ++ d :: t) with
  | none =>
    rw [escapedChar, hchar]
    decide
  | some c =>
    obtain @⟨zeros, a, b, -, -, hne, -⟩ := h
    have hcode := shifts_of_hexChar? hchar
    simp only [Option.bind_eq_bind, Option.bind_eq_some_iff, List.foldlM_append, List.foldlM_cons, List.foldlM_nil,
      shift?_eq_some_iff, Option.pure_def, Option.some.injEq] at hcode
    obtain ⟨_, ⟨n, -, _, ⟨v, hv, rfl⟩, _, ⟨v', -, rfl⟩, rfl⟩, _, ⟨v'', -, rfl⟩, hmore⟩ := hcode
    have hpos := one_le_of_hexValue? hv hne
    have hle := le_of_shifts hmore
    rw [escapedChar, hchar, Option.getD_some]
    omega

theorem runsOn_append_iff (hx : '\\' ∉ x) : RunsOn (x ++ rest) ↔ RunsOn rest := by
  induction x with
  | nil => rfl
  | cons c x ih =>
    rw [List.mem_cons, not_or] at hx
    rw [List.cons_append, RunsOn, ih hx.2]
    simp [Ne.symm hx.1]

/-! ### Spellings -/

/-- The ways to spell a letter: itself in either case, after a backslash, or by its code. -/
inductive Spelling (ℓ : Char) : Text → Prop
  | itself {c : Char} : IsLetter c → c.toLower = ℓ → Spelling ℓ [c]
  | escaped {c : Char} : IsLetter c → ¬ IsHex c → c.toLower = ℓ → Spelling ℓ ['\\', c]
  | code {digits e : Text} : LetterDigits digits → digits.length ≤ 6 → (escapedChar digits).toLower = ℓ → EscapeEnd e →
      Spelling ℓ ('\\' :: (digits ++ e))

/-- Two digits that are the code of a letter. -/
def IsCodeOf (ℓ : Char) : Text → Bool
  | [h, l] => IsHex h ∧ h ≠ '0' ∧ IsHex l ∧ (escapedChar [h, l]).toLower = ℓ
  | _ => false

theorem Letter.spelling {cases : List Char} {codes : List Text} {afterBackslash : Prop}
    (hcases : cases.all fun c => IsLetter c ∧ c.toLower = ℓ) (hplain : afterBackslash → cases.all fun c => ¬ IsHex c)
    (hcodes : codes.all (IsCodeOf ℓ)) (h : Letter cases codes afterBackslash t) : Spelling ℓ t := by
  simp only [List.all_eq_true, decide_eq_true_eq] at hcases hplain hcodes
  rcases h with hc | @⟨zeros, w, e, hz, hlen, hw, he⟩ | ⟨hafter, hc⟩
  · exact .itself (hcases _ hc).1 (hcases _ hc).2
  · have hcode := hcodes _ hw
    match w with
    | [a, b] =>
      obtain ⟨ha, hne, hb, hletter⟩ := of_decide_eq_true hcode
      refine .code (.mk hz ha hne hb) ?_ ?_ he
      · simp only [List.length_append, List.length_cons, List.length_nil]
        omega
      · rw [escapedChar_zeros hz (List.cons_ne_nil _ _), hletter]
  · exact .escaped (hcases _ hc).1 (hplain hafter _ hc) (hcases _ hc).2

theorem LetterD.spelling (h : LetterD t) : Spelling 'd' t :=
  Letter.spelling (by decide) (fun h => h.elim) (by decide) h

theorem LetterE.spelling (h : LetterE t) : Spelling 'e' t :=
  Letter.spelling (by decide) (fun h => h.elim) (by decide) h

theorem LetterN.spelling (h : LetterN t) : Spelling 'n' t :=
  Letter.spelling (by decide) (fun _ => by decide) (by decide) h

theorem LetterO.spelling (h : LetterO t) : Spelling 'o' t :=
  Letter.spelling (by decide) (fun _ => by decide) (by decide) h

theorem LetterT.spelling (h : LetterT t) : Spelling 't' t :=
  Letter.spelling (by decide) (fun _ => by decide) (by decide) h

theorem LetterV.spelling (h : LetterV t) : Spelling 'v' t :=
  Letter.spelling (by decide) (fun _ => by decide) (by decide) h

theorem Spelling.head (h : Spelling ℓ x) : ∃ c u, x = c :: u ∧ ¬ Text.isBlank c := by
  cases h with
  | itself hc _ => exact ⟨_, [], rfl, IsNamePlain.not_isBlank (.inl hc)⟩
  | escaped _ _ _ => exact ⟨_, _, rfl, by decide⟩
  | code _ _ _ _ => exact ⟨_, _, rfl, by decide⟩

theorem IsLetter.ne_backslash (h : IsLetter c) : c ≠ '\\' :=
  IsNamePlain.ne_backslash (.inl h)

theorem IsLetter.toNat_lt (h : IsLetter c) : c.toNat < 128 := by
  rcases h with rfl | h | h
  · decide
  · have hle : c.toNat ≤ 'z'.toNat := h.2
    exact Nat.lt_of_le_of_lt hle (by decide)
  · have hle : c.toNat ≤ 'Z'.toNat := h.2
    exact Nat.lt_of_le_of_lt hle (by decide)

theorem not_readsOn_of_not_isHex (hc : ¬ IsHex c) : ¬ ReadsOn (c :: t) := by
  intro h
  generalize hw : c :: t = w at h
  obtain @⟨digits, u, d, hdigits, -, -⟩ := h
  obtain ⟨e, he, hhex⟩ : ∃ e ∈ (digits ++ d :: u).head?, IsHex e := hdigits.exists_head
  rw [← hw] at he
  obtain rfl : c = e := Option.some.inj he
  exact hc hhex

theorem not_mem_of_code {e : Text} (hdigits : LetterDigits digits) (he : EscapeEnd e) : '\\' ∉ digits ++ e := by
  intro hmem
  rcases List.mem_append.1 hmem with hmem | hmem
  · exact absurd (hdigits.forall_isHex _ hmem) (by decide)
  · exact absurd (he.blanks _ hmem) (by decide)

/-- An escape of a letter is read on into hexadecimal digits only. -/
theorem Spelling.not_readsInto (h : Spelling ℓ x) (hrest : ∀ c ∈ rest.head?, ¬ Text.isBlank c ∧ ¬ IsHex c) :
    ¬ ReadsInto x rest := by
  rintro ⟨s, rfl, hreads⟩
  generalize hx : '\\' :: s = x at h
  cases h with
  | itself hc _ => exact absurd (List.cons.inj hx).1.symm hc.ne_backslash
  | escaped _ hhex _ =>
    obtain rfl := (List.cons.inj hx).2
    exact not_readsOn_of_not_isHex hhex hreads
  | @code digits e hdigits _ _ he =>
    obtain rfl := (List.cons.inj hx).2
    generalize hw : digits ++ e ++ rest = w at hreads
    obtain @⟨digits', y, d, hdigits', -, hd⟩ := hreads
    rw [List.append_assoc] at hw
    obtain rfl := hdigits.eq_of_append hdigits' hw
    have hmore : e ++ rest = d :: y := List.append_cancel_left hw
    cases e with
    | nil =>
      rw [List.nil_append] at hmore
      exact (hrest d (by rw [hmore]; rfl)).2 hd
    | cons b e =>
      obtain rfl := (List.cons.inj hmore).1
      exact hd.isNamePlain.not_isBlank he.isBlank

/-- A letter whose escape is not read on is read, and what comes after it is read by itself. -/
theorem Spelling.unescape_append (h : Spelling ℓ x) (hrest : ∀ c ∈ rest.head?, ¬ Text.isBlank c)
    (hreads : ¬ ReadsInto x rest) :
    (RunsOn (x ++ rest) ↔ RunsOn rest) ∧ ∃ c, c.toLower = ℓ ∧ unescape (x ++ rest) = c :: unescape rest := by
  cases h with
  | @itself c hc hletter =>
    refine ⟨runsOn_append_iff (by simpa using hc.ne_backslash.symm), c, hletter, unescape_cons_of_ne hc.ne_backslash⟩
  | @escaped c hc hhex hletter =>
    refine ⟨?_, c, hletter, unescape_pair hhex⟩
    simp [RunsOn, hc.ne_backslash, not_readsOn_of_not_isHex hhex]
  | @code digits e hdigits hlen hletter he =>
    have hnot : ¬ ReadsOn (digits ++ e ++ rest) := fun h => hreads ⟨_, rfl, h⟩
    refine ⟨?_, escapedChar digits, hletter, ?_⟩
    · rw [List.cons_append, RunsOn, runsOn_append_iff (not_mem_of_code hdigits he)]
      exact or_iff_right fun h => hnot h.2
    · rw [List.append_assoc] at hnot
      have hends : escapeDigits (digits ++ (e ++ rest)) = digits := by
        refine escapeDigits_append hdigits.forall_isHex hlen fun hlt c hc hhex => ?_
        obtain ⟨u, hu⟩ := List.head?_eq_some_iff.1 hc
        rw [hu] at hnot
        exact hnot (.mk hdigits hlt hhex)
      rw [List.cons_append, List.append_assoc, unescape_hex hdigits.exists_head, hends, List.drop_left,
        dropEscapeEnd_append he hrest]

/-- A letter whose escape is read on is not read. -/
theorem unescape_of_readsOn (h : ReadsOn t) : ∃ c u, 128 ≤ c.toNat ∧ unescape ('\\' :: t) = c :: u := by
  obtain ⟨hdigits, hlt, hd⟩ := h
  obtain ⟨y, hy⟩ := exists_escapeDigits_of_hex hdigits.forall_isHex hlt hd
  exact ⟨_, _, hdigits.le_escapedChar, by rw [unescape_hex hdigits.exists_head, hy]⟩

/-- The letter is read exactly if its escape is not read on. -/
theorem Spelling.reads_iff {w : Text} (h : Spelling ℓ x) (hℓ : ℓ.toNat < 128)
    (hrest : ∀ c ∈ rest.head?, ¬ Text.isBlank c) (hreads : Text.lower (unescape rest) = w ↔ ¬ RunsOn rest) :
    Text.lower (unescape (x ++ rest)) = ℓ :: w ↔ ¬ RunsOn (x ++ rest) := by
  by_cases hon : ReadsInto x rest
  · obtain ⟨s, rfl, hon⟩ := hon
    obtain ⟨c, u, hc, hu⟩ := unescape_of_readsOn hon
    have hruns : RunsOn ('\\' :: s ++ rest) := .inl ⟨rfl, hon⟩
    refine iff_of_false ?_ (not_not_intro hruns)
    rw [List.cons_append, hu]
    intro heq
    have hlower : c.toLower = ℓ := (List.cons.inj heq).1
    rcases Text.toLower_eq_self_or_isLetter c with hself | ⟨hletter, -⟩
    · rw [← hlower, hself] at hℓ
      omega
    · exact absurd hc (Nat.not_le_of_lt hletter.toNat_lt)
  · obtain ⟨hruns, c, hletter, hu⟩ := h.unescape_append hrest hon
    rw [hruns, ← hreads, hu, Text.lower, List.map_cons, hletter, List.cons.injEq]
    exact and_iff_right rfl

/-- A spelling of a word is read as the word exactly if no escape in it runs on. -/
theorem reads_iff_of_spellings {w : Text} {letters : List Text} (h : List.Forall₂ Spelling w letters)
    (hw : w.all (·.toNat < 128)) : Text.lower (unescape letters.flatten) = w ↔ ¬ RunsOn letters.flatten := by
  induction h with
  | nil => simp [unescape, Text.lower, RunsOn]
  | @cons ℓ x w letters hx hletters ih =>
    rw [List.all_cons, Bool.and_eq_true, decide_eq_true_eq] at hw
    have hhead : ∀ c ∈ letters.flatten.head?, ¬ Text.isBlank c := by
      cases hletters with
      | nil => simp
      | cons hy _ =>
        obtain ⟨c, u, rfl, hc⟩ := hy.head
        simpa using hc
    exact hx.reads_iff hw.1 hhead (ih hw.2)

theorem Odd.spellings (h : Odd t) : ∃ letters, List.Forall₂ Spelling "odd".toList letters ∧ letters.flatten = t := by
  obtain @⟨o, d, d', ho, hd, hd'⟩ := h
  exact ⟨[o, d, d'], .cons ho.spelling (.cons hd.spelling (.cons hd'.spelling .nil)), by simp⟩

theorem Even.spellings (h : Even t) : ∃ letters, List.Forall₂ Spelling "even".toList letters ∧ letters.flatten = t := by
  obtain @⟨e, v, e', n, he, hv, he', hn⟩ := h
  exact ⟨[e, v, e', n], .cons he.spelling (.cons hv.spelling (.cons he'.spelling (.cons hn.spelling .nil))), by simp⟩

theorem Spelling.lower_unescape_append (h : Spelling ℓ x) (hrest : ∀ c ∈ rest.head?, ¬ Text.isBlank c ∧ ¬ IsHex c) :
    Text.lower (unescape (x ++ rest)) = ℓ :: Text.lower (unescape rest) := by
  obtain ⟨-, c, hc, hu⟩ := h.unescape_append (fun c hc => (hrest c hc).1) (h.not_readsInto hrest)
  rw [hu, Text.lower, List.map_cons, hc]
  rfl

theorem Letter.head {cases : List Char} {codes : List Text} {afterBackslash : Prop}
    (hcases : cases.all fun c => ¬ Text.isBlank c ∧ ¬ IsHex c) (h : Letter cases codes afterBackslash t) :
    ∀ c ∈ (t ++ rest).head?, ¬ Text.isBlank c ∧ ¬ IsHex c := by
  simp only [List.all_eq_true, decide_eq_true_eq] at hcases
  rcases h with hc | _ | _
  · simpa using hcases _ hc
  · simp only [List.cons_append, List.head?_cons, Option.mem_some_iff, forall_eq']
    decide
  · simp only [List.cons_append, List.head?_cons, Option.mem_some_iff, forall_eq']
    decide

/-- The opening of a negation is read as such, for none of its letters can be read as a hexadecimal digit. -/
theorem NotOpening.reads (h : NotOpening t) : Text.lower (unescape t) = ":not(".toList := by
  obtain @⟨n, o, t, hn, ho, ht⟩ := h
  have hhead {y rest : Text} (hy : LetterO y ∨ LetterT y) : ∀ c ∈ (y ++ rest).head?, ¬ Text.isBlank c ∧ ¬ IsHex c := by
    rcases hy with hy | hy
    · exact Letter.head (by decide) hy
    · exact Letter.head (by decide) hy
  have hclose : ∀ c ∈ ['('].head?, ¬ Text.isBlank c ∧ ¬ IsHex c := by
    simp only [List.head?_cons, Option.mem_some_iff, forall_eq']
    decide
  calc
    Text.lower (unescape (':' :: (n ++ o ++ t ++ ['('])))
      = ':' :: Text.lower (unescape (n ++ (o ++ (t ++ ['('])))) := by
        rw [unescape_cons_of_ne (by decide), List.append_assoc, List.append_assoc]
        rfl
    _ = ':' :: 'n' :: Text.lower (unescape (o ++ (t ++ ['(']))) := by
        rw [hn.spelling.lower_unescape_append (hhead (.inl ho))]
    _ = ':' :: 'n' :: 'o' :: Text.lower (unescape (t ++ ['('])) := by
        rw [ho.spelling.lower_unescape_append (hhead (.inr ht))]
    _ = ':' :: 'n' :: 'o' :: 't' :: Text.lower (unescape ['(']) := by
        rw [ht.spelling.lower_unescape_append hclose]
    _ = ":not(".toList := by decide +kernel

theorem NthFormula.nth (h : NthFormula t) : Nth t := by
  simpa using Nth.mk blanks_nil h blanks_nil

end Derivation

namespace Rule

/-- The opening of a negation is read as `:not(`.  Spellings of `odd` and `even` are read as that exactly if no escape
in them runs on, but all of them are identifiers that the argument of a structural pseudo-class may be. -/
theorem unescape_keyword_iff (t : Text) :
    (Lexeme.not.accepts t = true → Text.lower (Text.unescape t) = ":not(".toList) ∧
    (odd.accepts t = true → (Text.lower (Text.unescape t) = "odd".toList ↔ ¬ RunsOn t)) ∧
    (even.accepts t = true → (Text.lower (Text.unescape t) = "even".toList ↔ ¬ RunsOn t)) ∧
    (odd.accepts t = true ∨ even.accepts t = true →
      Production.ident.accepts t = true ∧ Production.nth.accepts t = true) := by
  rw [Pattern.accepts_iff_matches (by decide +kernel), Pattern.accepts_iff_matches (by decide +kernel),
    Pattern.accepts_iff_matches (by decide +kernel), Lexeme.matches_not, matches_odd, matches_even]
  simp only [Production.accepts_iff_matches, Production.matches_pattern]
  refine ⟨NotOpening.reads, ?_, ?_, ?_⟩
  · intro h
    obtain ⟨letters, hletters, rfl⟩ := h.spellings
    exact reads_iff_of_spellings hletters (by decide)
  · intro h
    obtain ⟨letters, hletters, rfl⟩ := h.spellings
    exact reads_iff_of_spellings hletters (by decide)
  · intro h
    rcases h with h | h
    · exact ⟨h.ident, (NthFormula.odd h).nth⟩
    · exact ⟨h.ident, (NthFormula.even h).nth⟩

example : Text.unescape "\\6f dd".toList = "odd".toList := by decide +kernel

/-- One letter, U+6FDD, which is spelled like `odd`. -/
theorem unescape_of_odd : odd.accepts "\\6fdd".toList = true ∧ Text.unescape "\\6fdd".toList = ['\u6fdd'] ∧
    Pseudo.isValidClass ":nth-child(\\6fdd)".toList = true := by
  decide +kernel

end Rule

end SelectorSyntax
