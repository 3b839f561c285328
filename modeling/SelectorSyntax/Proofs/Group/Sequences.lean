import SelectorSyntax.CommandLine
import SelectorSyntax.Proofs.Grammar.Trimming
import SelectorSyntax.Proofs.Token.Elements

/-!
# The selectors of a group

The scanner that cuts a group at its commas knows no grammar, but it agrees with it about where the commas are: it
comes out of a balanced text as it went in (`Group.passes_balanced`), so each piece of a valid group is a selector
with blanks around it (`Group.exists_of_mem_pieces`).

Trimming a piece goes too far if the selector ends with an escaped blank.  This is the one way in which a selector of
a valid group is lost.
-/

namespace SelectorSyntax.Group

open SelectorSyntax.Derivation

/-! ### The scanner -/

/-- The scanner reads the text from one state to another without a separating comma. -/
def Passes (s : Scan) (u : Text) (s' : Scan) : Prop :=
  ∀ t, pieces s (u ++ t) = (pieces s' t).modifyHead (u ++ ·)

variable {s s' s'' : Scan} {t u v : Text} {c : Char}

theorem passes_nil : Passes s [] s := by
  intro t
  cases h : pieces s t <;> simp [h]

theorem Passes.append (hu : Passes s u s') (hv : Passes s' v s'') : Passes s (u ++ v) s'' := by
  intro t
  rw [List.append_assoc, hu, hv, List.modifyHead_modifyHead]
  congr 1
  funext w
  simp

theorem pieces_ne_nil (s : Scan) (t : Text) : pieces s t ≠ [] := by
  cases t with
  | nil => simp [pieces]
  | cons c t =>
    rw [pieces]
    split
    · simp
    · split <;> simp

theorem passes_char (h : ¬ (c = ',' ∧ s.atTop = true)) : Passes s [c] (s.next c) := by
  intro t
  have hc : ¬ (decide (c = ',') && s.atTop) = true := by simpa using h
  rw [List.singleton_append, pieces, if_neg hc]
  cases hp : pieces (s.next c) t with
  | nil => exact absurd hp (pieces_ne_nil _ _)
  | cons piece more => rfl

theorem passes_of_next (hcomma : c = ',' → s.atTop = false) (hnext : s.next c = s') : Passes s [c] s' := by
  rw [← hnext]
  exact passes_char fun ⟨h, htop⟩ => by simp [hcomma h] at htop

theorem passes_pair (quote : Option Char) (depth : Nat) :
    Passes ⟨false, quote, depth⟩ ['\\', c] ⟨false, quote, depth⟩ := by
  have hbackslash : Passes ⟨false, quote, depth⟩ ['\\'] ⟨true, quote, depth⟩ := passes_of_next (by simp) rfl
  have hescaped : Passes ⟨true, quote, depth⟩ [c] ⟨false, quote, depth⟩ := passes_of_next (fun _ => rfl) rfl
  exact hbackslash.append hescaped

theorem passes_escaping {q : Char} (depth : Nat) (h : Escaping (· ≠ q) u) :
    Passes ⟨false, some q, depth⟩ u ⟨false, some q, depth⟩ := by
  induction h with
  | nil => exact passes_nil
  | plain hne hq _ ih => exact (passes_of_next (fun _ => rfl) (by simp [Scan.next, hne, hq])).append ih
  | pair _ ih => exact (passes_pair _ _).append ih

/-- The scanner leaves a balanced text as it entered it. -/
theorem passes_balanced (depth : Nat) (h : Balanced u) : Passes ⟨false, none, depth⟩ u ⟨false, none, depth⟩ := by
  induction h generalizing depth with
  | nil => exact passes_nil
  | plain hc _ ih =>
    simp only [IsMarker, IsQuote, IsOpening, IsClosing, not_or] at hc
    refine (passes_of_next (fun h => absurd h hc.2.1) ?_).append (ih depth)
    simp [Scan.next, hc]
  | pair _ ih => exact (passes_pair _ _).append (ih depth)
  | @quoted q u t hq hu _ ih =>
    have hopen : Passes ⟨false, none, depth⟩ [q] ⟨false, some q, depth⟩ := by
      rcases hq with rfl | rfl <;> exact passes_of_next (by simp) rfl
    have hclose : Passes ⟨false, some q, depth⟩ [q] ⟨false, none, depth⟩ :=
      passes_of_next (fun _ => rfl) (by simp [Scan.next, hq.ne_backslash])
    simpa using hopen.append ((passes_escaping depth hu).append (hclose.append (ih depth)))
  | @bracketed o c u t ho _ hc _ ihu ih =>
    have hopen : Passes ⟨false, none, depth⟩ [o] ⟨false, none, depth + 1⟩ := by
      rcases ho with rfl | rfl <;> exact passes_of_next (by simp) rfl
    have hclose : Passes ⟨false, none, depth + 1⟩ [c] ⟨false, none, depth⟩ := by
      rcases hc with rfl | rfl <;> exact passes_of_next (by simp) rfl
    simpa using hopen.append ((ihu (depth + 1)).append (hclose.append (ih depth)))

/-! ### The pieces of a group -/

theorem pieces_of_balanced (h : Balanced u) : pieces .start u = [u] := by
  have := passes_balanced 0 h []
  rw [List.append_nil] at this
  rw [Scan.start, this]
  simp [pieces]

theorem pieces_comma (h : Balanced u) (t : Text) : pieces .start (u ++ ',' :: t) = u :: pieces .start t := by
  rw [Scan.start, passes_balanced 0 h]
  simp [pieces, Scan.atTop]

/-- Each piece of a group is a selector with blanks around it. -/
theorem exists_of_mem_pieces {r : Text} (hr : Many GroupMember r) {b x : Text} (hb : Blanks b) (hx : Selector x) :
    ∀ piece ∈ pieces .start (b ++ x ++ r), ∃ b x a, Blanks b ∧ Selector x ∧ Blanks a ∧ piece = b ++ x ++ a := by
  induction hr generalizing b x with
  | nil =>
    rw [List.append_nil, pieces_of_balanced ((balanced_of_blanks hb).append hx.balanced)]
    intro piece hpiece
    rw [List.mem_singleton] at hpiece
    exact ⟨b, x, [], hb, hx, fun _ h => (nomatch h), by simpa using hpiece⟩
  | @cons m r hm _ ih =>
    -- the scanner stands outside of brackets and quotes when it comes to the comma of the next member
    obtain @⟨a, b', x', ha, hb', hx'⟩ := hm
    have hbalanced := ((balanced_of_blanks hb).append hx.balanced).append (balanced_of_blanks ha)
    have hsplit := pieces_comma hbalanced (b' ++ x' ++ r)
    simp only [List.append_assoc, List.cons_append] at hsplit ih ⊢
    rw [hsplit, List.forall_mem_cons]
    exact ⟨⟨b, x, a, hb, hx, ha, rfl⟩, ih hb' hx'⟩

/-! ### Trimming -/

theorem selectorsGroup_of_isValidGroup (h : isValidGroup t = true) : t ≠ [] ∧ SelectorsGroup t := by
  simp only [isValidGroup, Bool.and_eq_true, Bool.not_eq_true', List.isEmpty_eq_false_iff,
    Production.accepts_iff_matches, Production.matches_pattern] at h
  exact h

theorem exists_of_mem_sequences (h : isValidGroup t = true) {s : Text} (hs : s ∈ sequences t) :
    ∃ x, Selector x ∧ s = Text.trimEnd x := by
  obtain ⟨hne, hgroup⟩ := selectorsGroup_of_isValidGroup h
  rw [sequences, if_neg (by simpa using hne)] at hs
  obtain ⟨piece, hpiece, rfl⟩ := List.mem_map.1 hs
  obtain ⟨hx, hr⟩ := hgroup
  obtain ⟨b, x, a, hb, hx, ha, rfl⟩ := exists_of_mem_pieces hr (b := []) (fun _ h => (nomatch h)) hx piece hpiece
  exact ⟨x, hx, hx.trim hb ha⟩

/-- A valid group with no comma between selectors is a selector. -/
theorem selector_of_single (h : isValidGroup t = true) {s : Text} (hs : sequences t = [s]) : Selector t := by
  obtain ⟨-, hgroup⟩ := selectorsGroup_of_isValidGroup h
  obtain @⟨x, r, hx, hr⟩ := hgroup
  cases hr with
  | nil => rwa [List.append_nil]
  | @cons m r hm hr =>
    -- the scanner would cut at the comma of the second selector
    obtain @⟨a, b, x', ha, hb, hx'⟩ := hm
    have hsplit := pieces_comma (hx.balanced.append (balanced_of_blanks ha)) (b ++ x' ++ r)
    simp only [List.append_assoc, List.cons_append] at hsplit hs
    rw [sequences, if_neg (by simp), hsplit, List.map_cons, List.cons.injEq, List.map_eq_nil_iff] at hs
    exact absurd hs.2 (pieces_ne_nil _ _)

theorem exists_error_iff {s : Text} : (∃ e, Token.texts s = .error e) ↔ ¬ ∃ tokens, Token.ofText s = .ok tokens := by
  cases h : Token.ofText s <;> simp [Token.texts, h, Except.map]

/-- The scanner cuts a valid group into its selectors, without the blanks around them.  Only a selector which ends
with an escaped blank loses a blank of its own. What remains of it ends with a backslash that escapes nothing: it is
no selector, and it has no tokens. -/
theorem accepts_sequence_iff {g : Text} (h : isValidGroup g = true) :
    sequences g ≠ [] ∧ ∀ s ∈ sequences g,
      (∃ x, Production.selector.accepts x = true ∧ s = Text.trimEnd x) ∧
      (Production.selector.accepts s = true ↔ ¬ EndsOpen s) ∧ ((∃ e, Token.texts s = .error e) ↔ EndsOpen s) := by
  constructor
  · obtain ⟨hne, -⟩ := selectorsGroup_of_isValidGroup h
    rw [sequences, if_neg (by simpa using hne)]
    simpa using pieces_ne_nil .start g
  · intro s hs
    obtain ⟨x, hx, rfl⟩ := exists_of_mem_sequences h hs
    simp only [Production.accepts_iff_matches, Production.matches_pattern, exists_error_iff]
    refine ⟨⟨x, hx, rfl⟩, ?_⟩
    rcases Selector.sheds.trimEnd hx with hselector | hlone
    · -- what is left is a selector
      have hopen := not_endsOpen_of_escaping hselector.balanced.escaping
      have hok := Token.exists_ofText hselector
      exact ⟨iff_of_true hselector hopen, iff_of_false (not_not_intro hok) hopen⟩
    · -- what is left ends with a backslash that escapes nothing
      have hopen := hlone.endsOpen
      have hselector : ¬ Selector (Text.trimEnd x) := by
        intro h
        exact not_endsOpen_of_escaping h.balanced.escaping hopen
      have hok : ¬ ∃ tokens, Token.ofText (Text.trimEnd x) = .ok tokens := by
        intro h
        obtain ⟨tokens, hok⟩ := h
        exact not_endsOpen_of_escaping (Token.balanced_of_ofText hok).escaping hopen
      exact ⟨iff_of_false hselector (not_not_intro hopen), iff_of_true hok hopen⟩

/-- Two selectors, of which the first one loses its blank. -/
theorem accepts_sequence_of_two : isValidGroup ".a\\ , b".toList = true ∧
    sequences ".a\\ , b".toList ≠ [] ∧ ∀ s ∈ sequences ".a\\ , b".toList,
      (∃ x, Production.selector.accepts x = true ∧ s = Text.trimEnd x) ∧
      (Production.selector.accepts s = true ↔ ¬ EndsOpen s) ∧ ((∃ e, Token.texts s = .error e) ↔ EndsOpen s) :=
  have h : isValidGroup ".a\\ , b".toList = true := by decide +kernel
  ⟨h, accepts_sequence_iff h⟩

/-- An escaped blank at the end of a valid group, and what is left of it. -/
theorem sequences_of_escaped_blank : isValidGroup "a\\ ".toList = true ∧ sequences "a\\ ".toList = ["a\\".toList] ∧
    Production.selector.accepts "a\\ ".toList = true ∧ Production.selector.accepts "a\\".toList = false ∧
    Command.rejectedIn false "a\\".toList = ["a\\".toList] ∧
    (Command.validateGroup false .empty "a\\ ".toList).1 = false := by
  decide +kernel

/-! ### Joining -/

/-- Balanced texts that are joined with commas come apart at exactly these commas. -/
theorem pieces_join {ss : List Text} (hne : ss ≠ []) (h : ∀ s ∈ ss, Balanced s) :
    pieces .start (Text.join [','] ss) = ss := by
  induction ss with
  | nil => exact absurd rfl hne
  | cons s ss ih =>
    rw [List.forall_mem_cons] at h
    cases ss with
    | nil => exact pieces_of_balanced h.1
    | cons s' ss =>
      have hjoin : Text.join [','] (s :: s' :: ss) = s ++ ',' :: Text.join [','] (s' :: ss) := by simp [Text.join]
      rw [hjoin, pieces_comma h.1, ih (List.cons_ne_nil _ _) h.2]

/-- Texts that have tokens can be joined with commas and are found again, without the blanks around them: a comma
inside of a token does not separate, and a comma between them does. -/
theorem sequences_join {ss : List Text} (h : ∀ s ∈ ss, ∃ tokens, Token.ofText s = .ok tokens)
    (hne : Text.join [','] ss ≠ []) : sequences (Text.join [','] ss) = ss.map Text.trim := by
  have hss : ss ≠ [] := by
    rintro rfl
    exact hne rfl
  have hbalanced : ∀ s ∈ ss, Balanced s := by
    intro s hs
    obtain ⟨tokens, hok⟩ := h s hs
    exact Token.balanced_of_ofText hok
  rw [sequences, if_neg (by simpa using hne), pieces_join hss hbalanced]

/-- Commas in a string, in brackets and in both kinds of escapes, blanks at the ends, and a text that is empty. -/
theorem sequences_join_of_four :
    let ss := ["[t='a,]b'] ".toList, " .c\\,d\\2c ".toList, [], ":f(\",\" x)+*".toList]
    (∀ s ∈ ss, ∃ tokens, Token.ofText s = .ok tokens) ∧ Text.join [','] ss ≠ [] ∧
      sequences (Text.join [','] ss) = ss.map Text.trim := by
  intro ss
  have hall : ss.all (Token.ofText · |>.isOk) = true := by decide +kernel
  have hok : ∀ s ∈ ss, ∃ tokens, Token.ofText s = .ok tokens := by
    intro s hs
    have hs := List.all_eq_true.1 hall s hs
    cases h : Token.ofText s with
    | ok tokens => exact ⟨tokens, rfl⟩
    | error e => simp [h, Except.isOk, Except.toBool] at hs
  have hne : Text.join [','] ss ≠ [] := by simp [ss, Text.join]
  exact ⟨hok, hne, sequences_join hok hne⟩

end SelectorSyntax.Group
