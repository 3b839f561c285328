import SelectorSyntax.Proofs.Pattern.Preference

/-!
# Escapes, quotes and brackets

What can be said about a text by looking at backslashes, quotes, brackets and commas alone.  In an `Escaping` text
every backslash has the character after it with it.  In a `Balanced` text moreover quotes and brackets are closed, and
commas stand only inside quotes or after a backslash.

* A character that may not stand for itself ends an `Escaping` text (`Escaping.allowed_of_append`).
* The first closing bracket that is too many ends a `Balanced` text (`Balanced.eq_of_close`), so the texts from some
  beginning to its closing bracket are no beginnings of each other (`prefixFree_bracketed`).
-/

namespace SelectorSyntax

/-- Characters other than a backslash with the property, and backslashes each with any character after it. -/
inductive Escaping (S : Char → Prop) : Text → Prop
  | nil : Escaping S []
  | plain {c : Char} {t : Text} : c ≠ '\\' → S c → Escaping S t → Escaping S (c :: t)
  | pair {c : Char} {t : Text} : Escaping S t → Escaping S ('\\' :: c :: t)

def IsQuote (c : Char) : Prop :=
  c = '"' ∨ c = '\''

def IsOpening (c : Char) : Prop :=
  c = '(' ∨ c = '['

def IsClosing (c : Char) : Prop :=
  c = ')' ∨ c = ']'

/-- The characters that a scanner has to look at. -/
def IsMarker (c : Char) : Prop :=
  c = '\\' ∨ c = ',' ∨ IsQuote c ∨ IsOpening c ∨ IsClosing c

instance : DecidablePred IsQuote := fun _ => inferInstanceAs (Decidable (_ ∨ _))

instance : DecidablePred IsOpening := fun _ => inferInstanceAs (Decidable (_ ∨ _))

instance : DecidablePred IsClosing := fun _ => inferInstanceAs (Decidable (_ ∨ _))

instance : DecidablePred IsMarker := fun _ => inferInstanceAs (Decidable (_ ∨ _))

inductive Balanced : Text → Prop
  | nil : Balanced []
  | plain {c : Char} {t : Text} : ¬ IsMarker c → Balanced t → Balanced (c :: t)
  | pair {c : Char} {t : Text} : Balanced t → Balanced ('\\' :: c :: t)
  | quoted {q : Char} {u t : Text} : IsQuote q → Escaping (· ≠ q) u → Balanced t → Balanced (q :: (u ++ q :: t))
  | bracketed {o c : Char} {u t : Text} : IsOpening o → Balanced u → IsClosing c → Balanced t →
      Balanced (o :: (u ++ c :: t))

/-- A beginning in which no bracket is opened, then a bracket that is closed at the end. -/
inductive Bracketed (S : Char → Prop) : Text → Prop
  | mk {a u : Text} {o c : Char} : Escaping S a → IsOpening o → Balanced u → IsClosing c →
      Bracketed S (a ++ o :: (u ++ [c]))

variable {S S' : Char → Prop} {t u x y z w : Text} {c d : Char}

/-! ### Escapes -/

theorem escaping_cons_iff (hne : c ≠ '\\') : Escaping S (c :: t) ↔ S c ∧ Escaping S t := by
  constructor
  · intro h
    cases h with
    | plain _ hc ht => exact ⟨hc, ht⟩
    | pair _ => exact absurd rfl hne
  · exact fun h => .plain hne h.1 h.2

theorem escaping_pair_iff : Escaping S ('\\' :: c :: t) ↔ Escaping S t := by
  constructor
  · intro h
    cases h with
    | plain hne _ _ => exact absurd rfl hne
    | pair ht => exact ht
  · exact .pair

theorem Escaping.append (hx : Escaping S x) (hy : Escaping S y) : Escaping S (x ++ y) := by
  induction hx with
  | nil => exact hy
  | plain hne hc _ ih => exact .plain hne hc ih
  | pair _ ih => exact .pair ih

theorem Escaping.mono (h : ∀ c, S c → S' c) (hx : Escaping S x) : Escaping S' x := by
  induction hx with
  | nil => exact .nil
  | plain hne hc _ ih => exact .plain hne (h _ hc) ih
  | pair _ ih => exact .pair ih

theorem escaping_of_forall (h : ∀ c ∈ t, c ≠ '\\' ∧ S c) : Escaping S t := by
  induction t with
  | nil => exact .nil
  | cons c t ih =>
    rw [List.forall_mem_cons] at h
    exact .plain h.1.1 h.1.2 (ih h.2)

/-- What comes after a whole text has its escapes with it. -/
theorem Escaping.right (hx : Escaping S x) (hxy : Escaping S (x ++ y)) : Escaping S y := by
  induction hx with
  | nil => exact hxy
  | plain hne _ _ ih => exact ih ((escaping_cons_iff hne).1 hxy).2
  | pair _ ih => exact ih (escaping_pair_iff.1 hxy)

/-- What comes before a cut between escapes has what the whole has. -/
theorem Escaping.left (hx : Escaping S' x) (hxy : Escaping S (x ++ y)) : Escaping S x := by
  induction hx with
  | nil => exact .nil
  | plain hne _ _ ih =>
    obtain ⟨hc, hxy⟩ := (escaping_cons_iff hne).1 hxy
    exact .plain hne hc (ih hxy)
  | pair _ ih => exact .pair (ih (escaping_pair_iff.1 hxy))

/-- After a whole text only what may stand for itself can follow, or a backslash. -/
theorem Escaping.allowed_of_append (hx : Escaping S x) (hxy : Escaping S (x ++ c :: y)) : c = '\\' ∨ S c := by
  induction hx with
  | nil =>
    by_cases hne : c = '\\'
    · exact .inl hne
    · exact .inr ((escaping_cons_iff hne).1 hxy).1
  | plain hne _ _ ih => exact ih ((escaping_cons_iff hne).1 hxy).2
  | pair _ ih => exact ih (escaping_pair_iff.1 hxy)

/-- Two texts that end before a character of neither are the same. -/
theorem Escaping.eq_of_cut (hx : Escaping S x) (hy : Escaping S y) (hc : ¬ (c = '\\' ∨ S c))
    (hd : ¬ (d = '\\' ∨ S d)) (h : x ++ c :: z = y ++ d :: w) : x = y := by
  rcases List.append_eq_append_iff.1 h with ⟨v, rfl, hv⟩ | ⟨v, rfl, hv⟩
  · cases v with
    | nil => rw [List.append_nil]
    | cons e v =>
      obtain rfl : c = e := (List.cons.inj hv).1
      exact absurd (hx.allowed_of_append hy) hc
  · cases v with
    | nil => rw [List.append_nil]
    | cons e v =>
      obtain rfl : d = e := (List.cons.inj hv).1
      exact absurd (hy.allowed_of_append hx) hd

/-! ### Brackets -/

theorem Balanced.append (hx : Balanced x) (hy : Balanced y) : Balanced (x ++ y) := by
  induction hx with
  | nil => exact hy
  | plain hc _ ih => exact .plain hc ih
  | pair _ ih => exact .pair ih
  | quoted hq hu _ ih => simpa using Balanced.quoted hq hu ih
  | bracketed ho hu hc _ _ ih => simpa using Balanced.bracketed ho hu hc ih

/-- A text without any of the characters that a scanner has to look at. -/
theorem balanced_of_forall (h : ∀ c ∈ t, ¬ IsMarker c) : Balanced t := by
  induction t with
  | nil => exact .nil
  | cons c t ih =>
    rw [List.forall_mem_cons] at h
    exact .plain h.1 (ih h.2)

theorem Escaping.balanced (hS : ∀ c, S c → ¬ (c = ',' ∨ IsQuote c ∨ IsOpening c ∨ IsClosing c)) (ht : Escaping S t) :
    Balanced t := by
  induction ht with
  | nil => exact .nil
  | @plain c t hne hc _ ih =>
    have hmarker : ¬ IsMarker c := by
      intro h
      rcases h with h | h
      · exact hne h
      · exact hS c hc h
    exact .plain hmarker ih
  | pair _ ih => exact .pair ih

theorem Bracketed.balanced (hS : ∀ c, S c → ¬ (c = ',' ∨ IsQuote c ∨ IsOpening c ∨ IsClosing c))
    (ht : Bracketed S t) : Balanced t := by
  obtain ⟨ha, ho, hu, hc⟩ := ht
  exact (ha.balanced hS).append (.bracketed ho hu hc .nil)

theorem IsQuote.ne_backslash (h : IsQuote c) : c ≠ '\\' := by
  rintro rfl
  simp [IsQuote] at h

theorem IsOpening.ne_backslash (h : IsOpening c) : c ≠ '\\' := by
  rintro rfl
  simp [IsOpening] at h

theorem IsClosing.ne_backslash (h : IsClosing c) : c ≠ '\\' := by
  rintro rfl
  simp [IsClosing] at h

theorem Balanced.escaping (ht : Balanced t) : Escaping (fun _ => True) t := by
  induction ht with
  | nil => exact .nil
  | plain hc _ ih => exact .plain (fun h => hc (.inl h)) trivial ih
  | pair _ ih => exact .pair ih
  | @quoted q u t hq hu _ ih =>
    have hu : Escaping (fun _ => True) u := hu.mono fun _ _ => trivial
    have hend : Escaping (fun _ => True) (q :: t) := .plain hq.ne_backslash trivial ih
    exact .plain hq.ne_backslash trivial (hu.append hend)
  | @bracketed o c u t ho _ hc _ ihu ih =>
    have hend : Escaping (fun _ => True) (c :: t) := .plain hc.ne_backslash trivial ih
    exact .plain ho.ne_backslash trivial (ihu.append hend)

/-! How a balanced text goes on is told by its first character. -/

private theorem Balanced.tail_of_plain (hc : ¬ IsMarker c) (h : Balanced (c :: t)) : Balanced t := by
  cases h with
  | plain _ ht => exact ht
  | pair _ => exact absurd (.inl rfl) hc
  | quoted hq _ _ => exact absurd (.inr (.inr (.inl hq))) hc
  | bracketed ho _ _ _ => exact absurd (.inr (.inr (.inr (.inl ho)))) hc

private theorem Balanced.tail_of_backslash (h : Balanced ('\\' :: t)) : ∃ c u, t = c :: u ∧ Balanced u := by
  cases h with
  | plain hc _ => exact absurd (.inl rfl) hc
  | pair ht => exact ⟨_, _, rfl, ht⟩
  | quoted hq _ _ => exact absurd rfl hq.ne_backslash
  | bracketed ho _ _ _ => exact absurd rfl ho.ne_backslash

private theorem Balanced.tail_of_quote (hc : IsQuote c) (h : Balanced (c :: t)) :
    ∃ u v, t = u ++ c :: v ∧ Escaping (· ≠ c) u ∧ Balanced v := by
  cases h with
  | plain hc' _ => exact absurd (.inr (.inr (.inl hc))) hc'
  | pair _ => exact absurd rfl hc.ne_backslash
  | quoted _ hu hv => exact ⟨_, _, rfl, hu, hv⟩
  | bracketed ho _ _ _ => rcases hc with rfl | rfl <;> simp [IsOpening] at ho

private theorem Balanced.tail_of_opening (hc : IsOpening c) (h : Balanced (c :: t)) :
    ∃ u d v, t = u ++ d :: v ∧ Balanced u ∧ IsClosing d ∧ Balanced v := by
  cases h with
  | plain hc' _ => exact absurd (.inr (.inr (.inr (.inl hc)))) hc'
  | pair _ => exact absurd rfl hc.ne_backslash
  | quoted hq _ _ => rcases hc with rfl | rfl <;> simp [IsQuote] at hq
  | bracketed _ hu hd hv => exact ⟨_, _, _, rfl, hu, hd, hv⟩

private theorem Balanced.not_closing (h : Balanced (c :: t)) : ¬ IsClosing c := by
  cases h with
  | plain hc _ => exact fun h => hc (.inr (.inr (.inr (.inr h))))
  | pair _ => exact fun h => h.ne_backslash rfl
  | quoted hq _ _ => rcases hq with rfl | rfl <;> simp [IsClosing]
  | bracketed ho _ _ _ => rcases ho with rfl | rfl <;> simp [IsClosing]

/-- Balanced texts that end before a closing bracket are the same. -/
theorem Balanced.eq_of_close (hx : Balanced x) (hy : Balanced y) (hc : IsClosing c) (hd : IsClosing d)
    (h : x ++ c :: z = y ++ d :: w) : x = y := by
  induction hx generalizing y c d z w with
  | nil =>
    cases y with
    | nil => rfl
    | cons e y =>
      obtain rfl : c = e := (List.cons.inj h).1
      exact absurd hc hy.not_closing
  | @plain e x he hx ih =>
    cases y with
    | nil =>
      obtain rfl : e = d := (List.cons.inj h).1
      exact absurd hd (Balanced.plain he hx).not_closing
    | cons e' y =>
      simp only [List.cons_append, List.cons.injEq] at h
      obtain ⟨rfl, h⟩ := h
      rw [ih (hy.tail_of_plain he) hc hd h]
  | @pair e x hx ih =>
    cases y with
    | nil => exact absurd (List.cons.inj h).1.symm hd.ne_backslash
    | cons e' y =>
      obtain rfl := (List.cons.inj h).1
      obtain ⟨e', y, rfl, hy'⟩ := hy.tail_of_backslash
      simp only [List.cons_append, List.cons.injEq, true_and] at h
      obtain ⟨rfl, h⟩ := h
      rw [ih hy' hc hd h]
  | @quoted q u x hq hu hx ih =>
    cases y with
    | nil =>
      obtain rfl : q = d := (List.cons.inj h).1
      exact absurd hd (Balanced.quoted hq hu hx).not_closing
    | cons e' y =>
      obtain rfl := (List.cons.inj h).1
      obtain ⟨v, y, rfl, hv, hy'⟩ := hy.tail_of_quote hq
      -- both strings end with the first quote that is not escaped
      have hcut : ¬ (q = '\\' ∨ q ≠ q) := by
        intro h
        rcases h with h | h
        · exact hq.ne_backslash h
        · exact h rfl
      simp only [List.append_assoc, List.cons_append, List.cons.injEq, true_and] at h
      obtain rfl := hu.eq_of_cut hv hcut hcut h
      have hrest := (List.cons.inj (List.append_cancel_left h)).2
      rw [ih hy' hc hd hrest]
  | @bracketed o e u x ho hu he hx ihu ih =>
    cases y with
    | nil =>
      obtain rfl : o = d := (List.cons.inj h).1
      exact absurd hd (Balanced.bracketed ho hu he hx).not_closing
    | cons e' y =>
      obtain rfl := (List.cons.inj h).1
      -- first the insides of the brackets are the same, then what comes after them
      obtain ⟨v, f, y, rfl, hv, hf, hy'⟩ := hy.tail_of_opening ho
      simp only [List.append_assoc, List.cons_append, List.cons.injEq, true_and] at h
      obtain rfl := ihu hv he hf h
      simp only [List.append_cancel_left_eq, List.cons.injEq] at h
      obtain ⟨rfl, h⟩ := h
      rw [ih hy' hc hd h]

/-- The first bracket that a balanced text opens is closed in it. -/
theorem Balanced.exists_close (hS : ∀ c, S c → ¬ (c = ',' ∨ IsQuote c ∨ IsOpening c ∨ IsClosing c)) (hx : Escaping S x)
    (hc : IsOpening c) (h : Balanced (x ++ c :: y)) :
    ∃ u d v, y = u ++ d :: v ∧ Balanced u ∧ IsClosing d := by
  induction hx with
  | nil =>
    obtain ⟨u, d, v, heq, hu, hd, -⟩ := Balanced.tail_of_opening hc h
    exact ⟨u, d, v, heq, hu, hd⟩
  | @plain e x hne he _ ih =>
    have hmarker : ¬ IsMarker e := by
      intro h
      rcases h with h | h
      · exact hne h
      · exact hS e he h
    exact ih (Balanced.tail_of_plain hmarker h)
  | @pair e x _ ih =>
    obtain ⟨e', u, heq, hu⟩ := Balanced.tail_of_backslash h
    obtain ⟨rfl, rfl⟩ := List.cons.inj heq
    exact ih hu

/-- A balanced text that ends before brackets are closed ends before they are opened. -/
theorem Balanced.exists_of_brackets {o : Char} (hS : ∀ c, S c → ¬ (c = ',' ∨ IsQuote c ∨ IsOpening c ∨ IsClosing c))
    (hx : Escaping S x) (ho : IsOpening o) (hu : Balanced u) (hd : IsClosing d) (ht : Balanced t) (hc : ¬ IsOpening c)
    (heq : t ++ c :: z = x ++ o :: (u ++ [d])) : ∃ w, x = t ++ c :: w := by
  rcases List.append_eq_append_iff.1 heq with ⟨w, rfl, hw⟩ | ⟨w, rfl, hw⟩
  · cases w with
    | nil =>
      obtain rfl := (List.cons.inj hw).1
      exact absurd ho hc
    | cons e w =>
      obtain rfl := (List.cons.inj hw).1
      exact ⟨w, rfl⟩
  · cases w with
    | nil =>
      obtain rfl := (List.cons.inj hw).1
      exact absurd ho hc
    | cons e w =>
      -- the bracket that is closed in the shorter text is closed before the end of the longer one
      obtain ⟨rfl, hinner⟩ := List.cons.inj hw
      obtain ⟨v, e, s, rfl, hv, he⟩ := Balanced.exists_close hS hx ho ht
      simp only [List.append_eq, List.append_assoc, List.cons_append] at hinner
      obtain rfl := hu.eq_of_close hv hd he hinner
      simpa using List.append_cancel_left hinner

/-- The bracket that a text ends with closes the first one that is opened in it. -/
theorem prefixFree_bracketed (hS : ∀ c, S c → ¬ IsOpening c) : PrefixFree (Bracketed S) := by
  intro _ y h hxy
  obtain ⟨ha, ho, hu, hc⟩ := h
  generalize hw : _ ++ y = w at hxy
  obtain ⟨ha', ho', hu', hc'⟩ := hxy
  have hcut {o : Char} (ho : IsOpening o) : ¬ (o = '\\' ∨ S o) := by
    intro h
    rcases h with h | h
    · exact ho.ne_backslash h
    · exact hS o h ho
  simp only [List.append_assoc, List.cons_append] at hw
  obtain rfl := ha.eq_of_cut ha' (hcut ho) (hcut ho') hw
  simp only [List.append_cancel_left_eq, List.cons.injEq, List.nil_append] at hw
  obtain ⟨rfl, hw⟩ := hw
  obtain rfl := hu.eq_of_close hu' hc hc' hw
  exact (List.cons.inj (List.append_cancel_left hw)).2

end SelectorSyntax
