import SelectorSyntax.Proofs.Text.Balanced
import SelectorSyntax.QualifiedName

/-!
# Cuts

Where the cuts of a text fall that know no grammar: at the first parenthesis (`Text.cutAt?`), before a known last
character (`Text.dropEnd?`), and at the first bar that is not escaped (`QualifiedName.cut?`).  The first two are
characterized for every text; the third for texts whose backslashes have their characters with them.
-/

namespace SelectorSyntax

namespace Text

variable {c d : Char} {t u v : Text}

theorem cutAt?_append (hc : c ∉ u) : cutAt? c (u ++ c :: v) = some (u, v) := by
  induction u with
  | nil => simp [cutAt?]
  | cons e u ih =>
    rw [List.mem_cons, not_or] at hc
    rw [List.cons_append, cutAt?, if_neg (Ne.symm hc.1), ih hc.2]
    rfl

theorem cutAt?_of_not_mem (hc : c ∉ t) : cutAt? c t = none := by
  induction t with
  | nil => rfl
  | cons e t ih =>
    rw [List.mem_cons, not_or] at hc
    rw [cutAt?, if_neg (Ne.symm hc.1), ih hc.2]
    rfl

theorem cutAt?_eq_some_iff : cutAt? c t = some (u, v) ↔ c ∉ u ∧ t = u ++ c :: v := by
  constructor
  · intro h
    by_cases hc : c ∈ t
    · obtain ⟨u', v', rfl, hu⟩ := List.eq_append_cons_of_mem hc
      rw [cutAt?_append hu] at h
      obtain ⟨rfl, rfl⟩ : u' = u ∧ v' = v := by simpa using h
      exact ⟨hu, rfl⟩
    · rw [cutAt?_of_not_mem hc] at h
      cases h
  · rintro ⟨hc, rfl⟩
    exact cutAt?_append hc

theorem dropEnd?_append_singleton : dropEnd? c (t ++ [d]) = if d = c then some t else none := by
  induction t with
  | nil => rfl
  | cons e t ih =>
    have hstep : dropEnd? c (e :: (t ++ [d])) = (dropEnd? c (t ++ [d])).map (e :: ·) := by
      cases t <;> rfl
    rw [List.cons_append, hstep, ih]
    split <;> rfl

theorem dropEnd?_eq_some_iff : dropEnd? c t = some u ↔ t = u ++ [c] := by
  rcases List.eq_nil_or_concat t with rfl | ⟨t, d, rfl⟩
  · simp [dropEnd?]
  · rw [List.concat_eq_append, dropEnd?_append_singleton]
    constructor
    · intro h
      split at h
      · rename_i hd
        rw [hd, Option.some.inj h]
      · cases h
    · intro h
      obtain ⟨rfl, hd⟩ := List.append_inj' h rfl
      rw [if_pos (List.cons.inj hd).1]

end Text

namespace QualifiedName

variable {S : Char → Prop} {t u : Text}

theorem cut?_cons_of_ne {c : Char} (hc : c ≠ '\\') (hbar : c ≠ '|') :
    cut? (c :: t) = (cut? t).map fun (before, after) => (c :: before, after) := by
  rw [cut?]
  · simp [hc]
  · simp [hc]
  · simp [hbar]

theorem cut?_append_bar (hS : ¬ S '|') (hu : Escaping S u) : cut? (u ++ '|' :: t) = some (u, t) := by
  induction hu with
  | nil => rfl
  | @plain c u hne hc _ ih =>
    have hbar : c ≠ '|' := by
      rintro rfl
      exact hS hc
    rw [List.cons_append, cut?_cons_of_ne hne hbar, ih]
    rfl
  | pair _ ih =>
    rw [List.cons_append, List.cons_append, cut?, ih]
    rfl

theorem cut?_of_escaping (hS : ¬ S '|') (hu : Escaping S u) : cut? u = none := by
  induction hu with
  | nil => rfl
  | @plain c u hne hc _ ih =>
    have hbar : c ≠ '|' := by
      rintro rfl
      exact hS hc
    rw [cut?_cons_of_ne hne hbar, ih]
    rfl
  | pair _ ih =>
    rw [cut?, ih]
    rfl

theorem ofText_append_bar (hS : ¬ S '|') (hu : Escaping S u) : ofText (u ++ '|' :: t) = ⟨some u, t⟩ := by
  rw [ofText, cut?_append_bar hS hu]

theorem ofText_of_escaping (hS : ¬ S '|') (hu : Escaping S u) : ofText u = ⟨none, u⟩ := by
  rw [ofText, cut?_of_escaping hS hu]

end QualifiedName

end SelectorSyntax
