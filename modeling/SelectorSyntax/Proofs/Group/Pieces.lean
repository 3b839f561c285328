import Mathlib.Data.List.TakeWhile
import SelectorSyntax.Proofs.Group.Sequences

/-!
# The pieces of any text

The scanner that cuts a group at its commas takes any text, also one with quotes and brackets that are not closed, or
with closing brackets too many.  It cuts where it stands as at the start, and it does not change there, so it comes to
each piece as it came to the first one.  This describes the pieces without the loop that finds them (`Cuts`,
`pieces_iff_cuts`): they are joined with commas, the scanner is back at its start after each but the last, and at no
comma inside of them.

What is said of a piece stays true of its parts that the scanner comes to at its start.  Blanks do not move the scanner
from there, so a piece without the blanks around it is not cut any further (`sequences_lossless`).
-/

namespace SelectorSyntax

open SelectorSyntax.Derivation

/-! ### Trimming -/

namespace Text

variable {t : Text} {c : Char}

theorem exists_dropWhile_eq (t : Text) : ∃ l, Blanks l ∧ t = l ++ t.dropWhile isBlank :=
  ⟨t.takeWhile isBlank, fun _ => List.mem_takeWhile_imp, List.takeWhile_append_dropWhile.symm⟩

theorem exists_trimEnd_eq (t : Text) : ∃ r, Blanks r ∧ t = trimEnd t ++ r := by
  obtain ⟨l, hl, heq⟩ := exists_dropWhile_eq t.reverse
  refine ⟨l.reverse, fun c hc => hl c (List.mem_reverse.1 hc), ?_⟩
  rw [trimEnd, ← List.reverse_append, ← heq, List.reverse_reverse]

/-- Trimming takes blanks from both ends, and nothing else. -/
theorem exists_trim_eq (t : Text) : ∃ l r, Blanks l ∧ Blanks r ∧ t = l ++ trim t ++ r := by
  obtain ⟨l, hl, hleft⟩ := exists_dropWhile_eq t
  obtain ⟨r, hr, hright⟩ := exists_trimEnd_eq (t.dropWhile isBlank)
  refine ⟨l, r, hl, hr, ?_⟩
  rw [trim, List.append_assoc, ← hright, ← hleft]

theorem not_isBlank_of_head_dropWhile (h : c ∈ (t.dropWhile isBlank).head?) : ¬ isBlank c := by
  have hnot := List.head?_dropWhile_not isBlank t
  rw [Option.mem_def.1 h] at hnot
  simpa using hnot

theorem not_isBlank_of_getLast_trim (h : c ∈ (trim t).getLast?) : ¬ isBlank c := by
  rw [trim, trimEnd, List.getLast?_reverse] at h
  exact not_isBlank_of_head_dropWhile h

theorem not_isBlank_of_head_trim (h : c ∈ (trim t).head?) : ¬ isBlank c := by
  -- trimming the end leaves the first character
  rw [trim] at h
  obtain ⟨r, -, heq⟩ := exists_trimEnd_eq (t.dropWhile isBlank)
  have hhead : c ∈ (t.dropWhile isBlank).head? := by
    rw [heq, List.head?_append, Option.mem_def.1 h]
    rfl
  exact not_isBlank_of_head_dropWhile hhead

theorem trim_trim (t : Text) : trim (trim t) = trim t := by
  have hdrop : (trim t).dropWhile isBlank = trim t := by
    cases h : trim t with
    | nil => rfl
    | cons c u => exact List.dropWhile_cons_of_neg (not_isBlank_of_head_trim (t := t) (by simp [h]))
  rw [trim, hdrop]
  exact trimEnd_eq_self fun c hc => not_isBlank_of_getLast_trim hc

end Text

namespace Group

variable {s : Scan} {t u v : Text} {c : Char} {ps : List Text}

/-! ### Where the scanner stands -/

namespace Scan

theorem atTop_iff : s.atTop = true ↔ s = start := by
  obtain ⟨escaped, quote, depth⟩ := s
  simp [atTop, start, and_assoc]

/-- The scanner after a text. -/
def after (s : Scan) (t : Text) : Scan :=
  t.foldl next s

theorem after_append (s : Scan) (u v : Text) : s.after (u ++ v) = (s.after u).after v :=
  List.foldl_append

/-- Blanks do not move the scanner from its start. -/
theorem after_blanks (h : Blanks t) : start.after t = start := by
  induction t with
  | nil => rfl
  | cons c t ih =>
    obtain ⟨hc, ht⟩ := List.forall_mem_cons.1 h
    have hnext : start.next c = start := by
      simp only [Text.isBlank, Bool.or_eq_true, beq_iff_eq] at hc
      rcases hc with (((rfl | rfl) | rfl) | rfl) | rfl <;> rfl
    rw [after, List.foldl_cons, hnext]
    exact ih ht

end Scan

/-- The scanner that comes to the text as given is at its start at no comma in it. -/
def Uncut (s : Scan) (u : Text) : Prop :=
  ∀ v w, u = v ++ ',' :: w → s.after v ≠ .start

theorem uncut_nil : Uncut s [] := by
  intro v w h
  simp at h

theorem uncut_cons_iff : Uncut s (c :: u) ↔ ¬ (c = ',' ∧ s.atTop = true) ∧ Uncut (s.next c) u := by
  constructor
  · intro h
    refine ⟨?_, fun v w heq => h (c :: v) w (by rw [heq, List.cons_append])⟩
    rintro ⟨rfl, htop⟩
    exact h [] u rfl (Scan.atTop_iff.1 htop)
  · rintro ⟨hc, hu⟩ v w heq
    cases v with
    | nil =>
      obtain rfl := (List.cons.inj heq).1
      exact fun hstart => hc ⟨rfl, Scan.atTop_iff.2 hstart⟩
    | cons d v =>
      obtain ⟨rfl, rfl⟩ := List.cons.inj heq
      exact hu v w rfl

theorem Uncut.left (h : Uncut s (u ++ v)) : Uncut s u := by
  rintro w z rfl
  exact h w (z ++ v) (by simp)

theorem Uncut.right (h : Uncut s (u ++ v)) : Uncut (s.after u) v := by
  rintro w z rfl
  rw [← Scan.after_append]
  exact h (u ++ w) z (by simp)

theorem Uncut.passes (h : Uncut s u) : Passes s u (s.after u) := by
  induction u generalizing s with
  | nil => exact passes_nil
  | cons c u ih =>
    obtain ⟨hc, hu⟩ := uncut_cons_iff.1 h
    exact (passes_char hc).append (ih hu)

/-! ### Cuts -/

/-- The pieces of a text to which the scanner comes as given: it is at its start after each but the last, where a comma
follows, and at no comma inside of them. -/
inductive Cuts : Scan → Text → List Text → Prop
  | last {s : Scan} {u : Text} : Uncut s u → Cuts s u [u]
  | more {s : Scan} {u t : Text} {ps : List Text} : Uncut s u → s.after u = .start → Cuts .start t ps →
      Cuts s (u ++ ',' :: t) (u :: ps)

theorem Cuts.cons (hc : ¬ (c = ',' ∧ s.atTop = true)) (h : Cuts (s.next c) t (u :: ps)) :
    Cuts s (c :: t) ((c :: u) :: ps) := by
  cases h with
  | last hu => exact .last (uncut_cons_iff.2 ⟨hc, hu⟩)
  | more hu hstart ht => exact .more (uncut_cons_iff.2 ⟨hc, hu⟩) hstart ht

theorem cuts_pieces (s : Scan) (t : Text) : Cuts s t (pieces s t) := by
  induction t generalizing s with
  | nil => exact .last uncut_nil
  | cons c t ih =>
    by_cases hc : c = ',' ∧ s.atTop = true
    · -- a cut, which leaves the scanner at its start
      obtain ⟨rfl, htop⟩ := hc
      obtain rfl := Scan.atTop_iff.1 htop
      exact .more (u := []) uncut_nil rfl (ih .start)
    · have hpieces := passes_char hc t
      have ht := ih (s.next c)
      rw [List.singleton_append] at hpieces
      rw [hpieces]
      cases h : pieces (s.next c) t with
      | nil => exact absurd h (pieces_ne_nil _ _)
      | cons u ps =>
        rw [h] at ht
        exact ht.cons hc

theorem pieces_start_comma (t : Text) : pieces .start (',' :: t) = [] :: pieces .start t := rfl

theorem Cuts.pieces_eq (h : Cuts s t ps) : pieces s t = ps := by
  induction h with
  | last hu =>
    have h := hu.passes []
    rw [List.append_nil] at h
    rw [h]
    simp [pieces]
  | more hu hstart _ ih =>
    rw [hu.passes, hstart, pieces_start_comma, ih]
    simp

/-- The pieces are the only texts that the commas where the scanner is at its start join to the whole. -/
theorem pieces_iff_cuts : pieces s t = ps ↔ Cuts s t ps :=
  ⟨fun h => h ▸ cuts_pieces s t, Cuts.pieces_eq⟩

theorem Cuts.join_eq (h : Cuts s t ps) : Text.join [','] ps = t := by
  induction h with
  | last _ => rfl
  | @more s u t ps _ _ ht ih =>
    have hjoin : Text.join [','] (u :: ps) = u ++ ',' :: Text.join [','] ps := by
      cases ht <;> simp [Text.join]
    rw [hjoin, ih]

theorem Cuts.uncut (h : Cuts .start t ps) : ∀ u ∈ ps, Uncut .start u := by
  generalize hs : Scan.start = s at h
  induction h with
  | last hu =>
    subst hs
    simpa using hu
  | more hu _ _ ih =>
    subst hs
    exact List.forall_mem_cons.2 ⟨hu, ih rfl⟩

/-! ### Pieces without the blanks around them -/

/-- The second text is the first one with blanks around it. -/
def Padded (p q : Text) : Prop :=
  ∃ l r, Blanks l ∧ Blanks r ∧ q = l ++ p ++ r

theorem Uncut.trim (h : Uncut .start u) : Uncut .start (Text.trim u) := by
  obtain ⟨l, r, hl, -, heq⟩ := Text.exists_trim_eq u
  rw [heq] at h
  have htrim := h.left.right
  rwa [Scan.after_blanks hl] at htrim

theorem sequences_of_uncut (hne : u ≠ []) (h : Uncut .start u) : sequences u = [Text.trim u] := by
  rw [sequences, if_neg (by simpa using hne), pieces_iff_cuts.2 (.last h), List.map_singleton]

/-- Any text but the empty one is made up from its pieces by commas and blanks, and the pieces are not cut again. -/
theorem sequences_lossless {g : Text} (hne : g ≠ []) :
    sequences g ≠ [] ∧
    (∀ p ∈ sequences g, (∀ c ∈ p.head?, ¬ Text.isBlank c) ∧ ∀ c ∈ p.getLast?, ¬ Text.isBlank c) ∧
    (∃ padded, List.Forall₂ Padded (sequences g) padded ∧ g = Text.join [','] padded ∧ Cuts .start g padded) ∧
    ∀ p ∈ sequences g, p ≠ [] → sequences p = [p] := by
  have hcuts : Cuts .start g (pieces .start g) := pieces_iff_cuts.1 rfl
  rw [sequences, if_neg (by simpa using hne)]
  refine ⟨by simpa using pieces_ne_nil .start g, ?_, ⟨_, ?_, hcuts.join_eq.symm, hcuts⟩, ?_⟩
  · intro p hp
    obtain ⟨u, -, rfl⟩ := List.mem_map.1 hp
    exact ⟨fun c => Text.not_isBlank_of_head_trim, fun c => Text.not_isBlank_of_getLast_trim⟩
  · rw [List.forall₂_map_left_iff, List.forall₂_same]
    exact fun u _ => Text.exists_trim_eq u
  · intro p hp hpne
    obtain ⟨u, hu, rfl⟩ := List.mem_map.1 hp
    rw [sequences_of_uncut hpne (hcuts.uncut u hu).trim, Text.trim_trim]

/-- Closing brackets too many, an escaped blank at the end of a piece, a comma in quotes, an empty piece, a bracket that
is not closed, and a backslash at the very end. -/
theorem sequences_lossless_of_malformed :
    let g := " )a\\ ,\" ,b]\" ,,[c , d\\".toList
    g ≠ [] ∧
    sequences g ≠ [] ∧
    (∀ p ∈ sequences g, (∀ c ∈ p.head?, ¬ Text.isBlank c) ∧ ∀ c ∈ p.getLast?, ¬ Text.isBlank c) ∧
    (∃ padded, List.Forall₂ Padded (sequences g) padded ∧ g = Text.join [','] padded ∧ Cuts .start g padded) ∧
    (∀ p ∈ sequences g, p ≠ [] → sequences p = [p]) ∧
    sequences g = [")a\\".toList, "\" ,b]\"".toList, [], "[c , d\\".toList] := by
  intro g
  have hne : g ≠ [] := by simp [g]
  obtain ⟨h, hblanks, hpadded, hagain⟩ := sequences_lossless hne
  exact ⟨hne, h, hblanks, hpadded, hagain, by decide +kernel⟩

end Group

end SelectorSyntax
