import SelectorSyntax.Proofs.Grammar.Name
import SelectorSyntax.Proofs.Text.Cutting

/-!
# Texts up to case

Only letters have a case, so what a text in lower case has besides letters the text has itself, and what a name in
lower case is the name is in any case.  This carries the facts about the names in a table over to the texts that are
listed in it (`Text.isListed`).

Lower case keeps blanks, lengths and everything that a text is cut at, so it does not matter whether a text is first
cut and then put into lower case or the other way round (`Text.trim_lower`, `Text.cutAt?_lower`).
-/

namespace SelectorSyntax.Text

open SelectorSyntax.Derivation

variable {c d : Char} {t : Text} {names : List String}

theorem toLower_eq_self_or_isLetter (c : Char) : c.toLower = c ∨ IsLetter c ∧ IsLetter c.toLower := by
  by_cases h : c.val ≥ 'A'.val ∧ c.val ≤ 'Z'.val
  · have hval : c.toLower.val = c.val + 32 := congrArg Char.val (dif_pos h)
    refine .inr ⟨.inr (.inr h), .inr (.inl ?_)⟩
    simp only [Char.le_def, UInt32.le_iff_toNat_le, ge_iff_le, Char.reduceVal, UInt32.reduceToNat] at h ⊢
    rw [hval, UInt32.toNat_add]
    simp only [UInt32.reduceToNat]
    omega
  · exact .inl (dif_neg h)

theorem isLetter_of_toLower (h : IsLetter c.toLower) : IsLetter c := by
  rcases toLower_eq_self_or_isLetter c with heq | ⟨hc, -⟩
  · rwa [heq] at h
  · exact hc

theorem isNamePlain_of_toLower (h : IsNamePlain c.toLower) : IsNamePlain c := by
  rcases toLower_eq_self_or_isLetter c with heq | ⟨hc, -⟩
  · rwa [heq] at h
  · exact .inl hc

theorem eq_of_toLower (hd : ¬ IsLetter d) (h : c.toLower = d) : c = d := by
  rcases toLower_eq_self_or_isLetter c with heq | ⟨-, hc⟩
  · rw [← heq, h]
  · rw [h] at hc
    exact absurd hc hd

/-- The head of a text in lower case, if it is no letter, is the head of the text. -/
theorem eq_cons_of_lower {u : Text} (hd : ¬ IsLetter d) (h : lower t = d :: u) : ∃ t', t = d :: t' ∧ lower t' = u := by
  obtain ⟨c, t', rfl, hc, hu⟩ := List.map_eq_cons_iff.1 h
  exact ⟨t', by rw [eq_of_toLower hd hc], hu⟩

/-- A letter, and characters that stand for themselves in a name. -/
def IsWord : Text → Prop
  | [] => False
  | c :: u => IsLetter c ∧ ∀ d ∈ u, IsNamePlain d

instance : DecidablePred IsWord
  | [] => inferInstanceAs (Decidable False)
  | c :: u => decidable_of_iff (IsLetter c ∧ u.all (IsNamePlain ·) = true) (by simp [IsWord])

theorem IsWord.forall_mem (h : IsWord t) : ∀ c ∈ t, IsNamePlain c := by
  cases t with
  | nil => exact h.elim
  | cons c u => exact List.forall_mem_cons.2 ⟨.inl h.1, h.2⟩

theorem IsWord.not_mem (h : IsWord t) (hc : ¬ IsNamePlain c) : c ∉ t :=
  fun hmem => hc (h.forall_mem c hmem)

theorem IsWord.append_ne_cons (h : IsWord t) (hc : ¬ IsLetter c) (s u : Text) : t ++ s ≠ c :: u := by
  cases t with
  | nil => exact h.elim
  | cons d v =>
    intro heq
    exact hc ((List.cons.inj heq).1 ▸ h.1)

theorem IsWord.ident (h : IsWord t) : Ident t := by
  have hmany {u : Text} (hu : ∀ d ∈ u, IsNamePlain d) : Many NameChar u := by
    induction u with
    | nil => exact .nil
    | cons d u ih =>
      rw [List.forall_mem_cons] at hu
      exact .cons (nameChar_iff.2 (.inl ⟨d, hu.1, rfl⟩)) (ih hu.2)
  cases t with
  | nil => exact h.elim
  | cons c u => exact .mk .absent (.letter h.1) (hmany h.2)

theorem IsWord.of_lower (h : IsWord (lower t)) : IsWord t := by
  cases t with
  | nil => exact h
  | cons c u =>
    refine ⟨isLetter_of_toLower h.1, ?_⟩
    intro d hd
    exact isNamePlain_of_toLower (h.2 _ (List.mem_map_of_mem hd))

/-! ### Tables of names -/

theorem isListed_iff : isListed names t = true ↔ ∃ name ∈ names, lower name.toList = lower t := by
  simp [isListed, sameIgnoringCase]

/-- What holds of all names of a table in lower case holds of a listed text in lower case. -/
theorem lower_of_isListed {Q : Text → Prop} (hnames : ∀ name ∈ names, Q (lower name.toList))
    (h : isListed names t = true) : Q (lower t) := by
  obtain ⟨name, hmem, heq⟩ := isListed_iff.1 h
  rw [← heq]
  exact hnames name hmem

/-- Tables with no name in common list no text in common. -/
theorem isListed_eq_false {others : List String}
    (hdisjoint : ∀ name ∈ names, ∀ other ∈ others, lower other.toList ≠ lower name.toList)
    (h : isListed names t = true) : isListed others t = false := by
  have hnone := lower_of_isListed (Q := fun s => ∀ other ∈ others, lower other.toList ≠ s) hdisjoint h
  rw [← Bool.not_eq_true, isListed_iff]
  rintro ⟨other, hother, heq⟩
  exact hnone other hother heq

/-! ### Lower case -/

/-- The letters that have another one in lower case. -/
def capitals : List Char :=
  "ABCDEFGHIJKLMNOPQRSTUVWXYZ".toList

theorem mem_capitals_of_toLower_ne (h : c.toLower ≠ c) : c ∈ capitals := by
  have hrange : 65 ≤ c.toNat ∧ c.toNat ≤ 90 := by
    by_contra hout
    exact h (dif_neg hout)
  have hcapitals : ∀ n ≤ 90, 65 ≤ n → Char.ofNat n ∈ capitals := by decide
  simpa using hcapitals c.toNat hrange.2 hrange.1

/-- One check over the list of capitals. -/
theorem forall_capitals {Q : Char → Prop} [DecidablePred Q] (h : capitals.all (Q ·) = true) : ∀ c ∈ capitals, Q c := by
  simpa using h

/-- What lower case leaves as it is needs to be checked for the capitals only. -/
theorem forall_toLower {Q : Char → Char → Prop} (hsame : ∀ c, Q c c) (hcapitals : ∀ c ∈ capitals, Q c.toLower c)
    (c : Char) : Q c.toLower c := by
  by_cases h : c.toLower = c
  · rw [h]
    exact hsame c
  · exact hcapitals c (mem_capitals_of_toLower_ne h)

theorem utf8Size_toLower (c : Char) : c.toLower.utf8Size = c.utf8Size :=
  forall_toLower (Q := fun d c => d.utf8Size = c.utf8Size) (fun _ => rfl) (forall_capitals (by decide)) c

theorem isBlank_toLower (c : Char) : isBlank c.toLower = isBlank c :=
  forall_toLower (Q := fun d c => isBlank d = isBlank c) (fun _ => rfl) (forall_capitals (by decide)) c

theorem toLower_eq_iff (hd : ¬ IsLetter d) : c.toLower = d ↔ c = d := by
  refine ⟨eq_of_toLower hd, ?_⟩
  rintro rfl
  rcases toLower_eq_self_or_isLetter c with h | ⟨h, -⟩
  · exact h
  · exact absurd h hd

theorem lower_lower (t : Text) : lower (lower t) = lower t := by
  have htwice (c : Char) : c.toLower.toLower = c.toLower := by
    by_cases h : c.toLower = c
    · rw [h, h]
    · exact forall_capitals (Q := fun c => c.toLower.toLower = c.toLower) (by decide) c (mem_capitals_of_toLower_ne h)
  rw [lower, lower, List.map_map]
  exact List.map_congr_left fun c _ => htwice c

@[simp] theorem lower_cons (c : Char) (t : Text) : lower (c :: t) = c.toLower :: lower t := rfl

@[simp] theorem length_lower (t : Text) : (lower t).length = t.length :=
  List.length_map ..

theorem isEmpty_lower (t : Text) : (lower t).isEmpty = t.isEmpty := by
  cases t <;> rfl

theorem byteLength_lower (t : Text) : byteLength (lower t) = byteLength t := by
  induction t with
  | nil => rfl
  | cons c t ih =>
    change c.toLower.utf8Size + byteLength (lower t) = c.utf8Size + byteLength t
    rw [utf8Size_toLower, ih]

theorem sameIgnoringCase_lower (s t : Text) : sameIgnoringCase s (lower t) = sameIgnoringCase s t := by
  rw [sameIgnoringCase, sameIgnoringCase, lower_lower]

theorem isListed_lower (names : List String) (t : Text) : isListed names (lower t) = isListed names t := by
  simp only [isListed, sameIgnoringCase_lower]

/-! ### Cuts -/

theorem trimEnd_lower (t : Text) : trimEnd (lower t) = lower (trimEnd t) := by
  have hblank : isBlank ∘ Char.toLower = isBlank := funext isBlank_toLower
  simp [trimEnd, lower, ← List.map_reverse, List.dropWhile_map, hblank]

theorem trim_lower (t : Text) : trim (lower t) = lower (trim t) := by
  have hblank : isBlank ∘ Char.toLower = isBlank := funext isBlank_toLower
  rw [trim, trim, ← trimEnd_lower]
  simp [lower, List.dropWhile_map, hblank]

theorem cutAt?_lower (hc : ¬ IsLetter c) (t : Text) :
    cutAt? c (lower t) = (cutAt? c t).map (Prod.map lower lower) := by
  induction t with
  | nil => rfl
  | cons d t ih =>
    rw [lower_cons, cutAt?, cutAt?]
    simp only [toLower_eq_iff hc, ih]
    split
    · rfl
    · cases cutAt? c t <;> rfl

theorem dropEnd?_lower (hc : ¬ IsLetter c) (t : Text) : dropEnd? c (lower t) = (dropEnd? c t).map lower := by
  rcases List.eq_nil_or_concat t with rfl | ⟨t, d, rfl⟩
  · rfl
  · have hlower : lower (t ++ [d]) = lower t ++ [d.toLower] := by simp [lower]
    rw [List.concat_eq_append, hlower, dropEnd?_append_singleton, dropEnd?_append_singleton]
    simp only [toLower_eq_iff hc]
    split <;> rfl

end SelectorSyntax.Text
