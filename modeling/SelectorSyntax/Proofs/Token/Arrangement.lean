import Mathlib.Data.List.Chain
import SelectorSyntax.Proofs.Token.Elements
import SelectorSyntax.Proofs.Token.Kind

/-!
# The arrangement of tokens

Whether a text is a selector can nearly be read off the productions of its tokens: combinators stand alone and inside,
and a type or a universal selector comes first or after a combinator (`Arranged`).  There is one exception, because the
grammar does not ask for the longest token.  Of `.\31 *` the tokens are `.\31 ` and `*`, but as the escape may do
without its blank, the blank may be the combinator (`Token.Seam`).

* The tokens of a selector are arranged so, by one step along the grammar for each token (`Cut.isChain`).
* Tokens that are arranged so make a selector, where a seam is split at its blank (`selector_of_arranged`).
-/

namespace SelectorSyntax.Token

open SelectorSyntax.Derivation

variable {t x r : Text} {p : Production}

/-- A type or a universal selector. -/
def isElement (t : Token) : Bool :=
  t.production == .typeSelector || t.production == .universal

/-- What may stand between two tokens if not a combinator: a blank of the first one that can be read as one. -/
def Seam (a b : Token) : Prop :=
  Derivation.Seam (a.production.accepts · = true) a.raw b.raw

/-- Tokens in the shape of the grammar: no combinator at either end or next to another one, and a type or a universal
selector only at the beginning, after a combinator or after a token that `joins` it. -/
structure Arranged (joins : Token → Token → Prop) (tokens : List Token) : Prop where
  first : ∀ s ∈ tokens.head?, s.isCombinator = false
  last : ∀ s ∈ tokens.getLast?, s.isCombinator = false
  alone : tokens.IsChain fun a b => ¬ (a.isCombinator = true ∧ b.isCombinator = true)
  element : tokens.IsChain fun a b => b.isElement = true → a.isCombinator = true ∨ joins a b

/-! ### From the grammar to the tokens -/

theorem isElement_iff {s : Token} : s.isElement = true ↔ s.production = .typeSelector ∨ s.production = .universal := by
  simp [isElement]

/-- The first token begins with the first character of the text. -/
theorem Cut.head?_raw {ps : List (Production × Text)} {left : Text} (h : Cut t ps left) {offset : Nat} {s : Token}
    (hs : s ∈ (place offset ps).head?) : s.raw.head? = t.head? := by
  cases h with
  | stop => cases hs
  | step hx _ =>
    obtain rfl : _ = s := by simpa [place] using hs
    obtain ⟨c, u, rfl⟩ := List.exists_cons_of_ne_nil hx.longest.holds.ne_nil
    rfl

/-- No type or universal selector stands where something else may follow a simple selector. -/
theorem IsFirst.isElement_eq_false (hx : IsFirst (x ++ r) p x) (h : Follow (x ++ r)) (offset : Nat) :
    (⟨p, offset, x⟩ : Token).isElement = false := by
  rw [Bool.eq_false_iff, ne_eq, isElement_iff]
  intro hp
  have helement : TypeSelector x ∨ Universal x := by
    have hderives := hx.isKind.derives
    rcases hp with rfl | rfl
    · exact .inl hderives
    · exact .inr hderives
  obtain ⟨c, u, rfl, hc⟩ := head_of_element helement
  rcases Follow.head h with (rfl | rfl | rfl | rfl) | hk
  · exact absurd hc (by decide)
  · exact absurd hc (by decide)
  · exact absurd hc (by decide)
  · exact absurd hc (by decide)
  · exact not_isCombinatorChar_of_head (.inl hc) hk

/-- A type or a universal selector comes after a combinator or a seam. -/
theorem Cut.isChain {ps : List (Production × Text)} {left : Text} (h : Cut t ps left) (offset : Nat) :
    (AtBoundary t → (place offset ps).IsChain fun a b => b.isElement = true → a.isCombinator = true ∨ Seam a b) ∧
      (Follow t → ∀ s ∈ (place offset ps).head?, s.isElement = false) := by
  induction h generalizing offset with
  | stop _ => exact ⟨fun _ => .nil, fun _ s hs => nomatch hs⟩
  | @step p x t left ps hx hcut ih =>
    obtain ⟨hchain, hfollow⟩ := ih (offset + Text.byteLength x)
    have hjoined (h : TokenLeaves x t) : ∀ s ∈ (place (offset + Text.byteLength x) ps).head?, s.isElement = true →
        (⟨p, offset, x⟩ : Token).isCombinator = true ∨ Seam ⟨p, offset, x⟩ s := by
      intro s hs helement
      obtain ⟨q, hq, h | ⟨-, g, c, n, hg, hc, hgn, hn⟩⟩ := h
      · simp [hfollow h s hs] at helement
      · obtain rfl := hq.unique hx.isKind
        have hg : q.accepts g = true := by rwa [Production.accepts_iff_matches, Production.matches_pattern]
        refine .inr ⟨g, c, n, hg, hc, hgn, hn.imp_right fun h => ⟨h.1, ?_⟩⟩
        rw [hcut.head?_raw hs]
        exact h.2
    refine ⟨fun h => List.isChain_cons.2 ?_, fun h s hs => ?_⟩
    · rcases h with h | h
      · rcases cases_of_follow h hx.longest rfl with ⟨-, hr⟩ | ⟨hk, hr⟩
        · exact ⟨hjoined hr, hchain hr.atBoundary⟩
        · exact ⟨fun _ _ _ => .inl ((hx.isCombinator_iff offset).2 hk), hchain (.inr hr)⟩
      · obtain ⟨hr, -⟩ := tokenLeaves_of_selector h hx.longest rfl
        exact ⟨hjoined hr, hchain hr.atBoundary⟩
    · obtain rfl : _ = s := by simpa [place] using hs
      exact hx.isElement_eq_false h offset

/-! ### From the tokens to the grammar -/

/-- What tokens stand for begins as the first of them. -/
private theorem head?_flatMap_raw {tokens : List Token} {s : Token} (hs : s ∈ tokens.head?) (hne : s.raw ≠ []) :
    (tokens.flatMap raw).head? = s.raw.head? := by
  obtain ⟨c, u, hcu⟩ := List.exists_cons_of_ne_nil hne
  cases tokens with
  | nil => cases hs
  | cons a tokens =>
    obtain rfl : a = s := by simpa using hs
    simp [hcu]

theorem Seam.exists_follow {tokens : List Token} {a s : Token} (h : Seam a s) (hs : s ∈ tokens.head?)
    (hne : s.raw ≠ []) (hselector : Selector (tokens.flatMap raw)) :
    ∃ g r, a.production.Derives g ∧ Follow r ∧ a.raw ++ tokens.flatMap raw = g ++ r := by
  unfold Seam Derivation.Seam at h
  rw [← head?_flatMap_raw hs hne] at h
  obtain ⟨g, r, hg, hr, heq⟩ := Derivation.Seam.exists_follow h hselector
  rw [Production.accepts_iff_matches, Production.matches_pattern] at hg
  exact ⟨g, r, hg, hr, heq⟩

/-- A simple selector and what may follow one. -/
private theorem selector_of_simple {g s : Text} (hp : p ∈ productions) (hk : p ≠ .combinator) (hg : p.Derives g)
    (hs : Follow s) : Selector (g ++ s) ∧ (¬ (p = .typeSelector ∨ p = .universal) → Follow (g ++ s)) := by
  rcases derives_cases hp hg with ⟨hp, -⟩ | ⟨hp, hg⟩ | ⟨-, -, hg⟩
  · exact absurd hp hk
  · exact ⟨selector_iff.2 ⟨g, s, .inl hg, hs, rfl⟩, fun h => absurd hp h⟩
  · exact ⟨selector_iff.2 ⟨g, s, .inr hg, hs, rfl⟩, fun _ => hg.follow hs⟩

/-- Tokens in the shape of the grammar are a selector, and without an element first they may follow one. -/
theorem selector_of_arranged {tokens : List Token} (hkind : ∀ s ∈ tokens, IsKind s.production s.raw)
    (hlast : ∀ s ∈ tokens.getLast?, s.isCombinator = false)
    (halone : tokens.IsChain fun a b => ¬ (a.isCombinator = true ∧ b.isCombinator = true))
    (helement : tokens.IsChain fun a b => b.isElement = true → a.isCombinator = true ∨ Seam a b) :
    ((∀ s ∈ tokens.head?, s.isElement = false) → Follow (tokens.flatMap raw)) ∧
      ((∃ s ∈ tokens.head?, s.isCombinator = false) → Selector (tokens.flatMap raw)) := by
  induction tokens with
  | nil => exact ⟨fun _ => ⟨[], [], .nil, .nil, rfl⟩, fun ⟨_, hs, _⟩ => nomatch hs⟩
  | cons a rest ih =>
    rw [List.isChain_cons] at halone helement
    rw [List.forall_mem_cons] at hkind
    have hlast' (s : Token) (hs : s ∈ rest.getLast?) : s.isCombinator = false :=
      hlast s (by simp [List.getLast?_cons, Option.mem_def.1 hs])
    obtain ⟨hfollow, hselector⟩ := ih hkind.2 hlast' halone.2 helement.2
    rw [List.flatMap_cons]
    by_cases ha : a.production = .combinator
    · have hk : Combinator a.raw := by
        have hderives := hkind.1.derives
        rwa [ha] at hderives
      have ha : a.isCombinator = true := by simp [isCombinator, ha]
      -- it is not the last token, and so a simple selector comes next
      have hnext : ∃ s ∈ rest.head?, s.isCombinator = false := by
        cases rest with
        | nil => simp [ha] at hlast
        | cons s rest => exact ⟨s, rfl, by simpa [ha] using halone.1 s rfl⟩
      exact ⟨fun _ => (hselector hnext).follow hk, by simp [ha]⟩
    · have hsplit : ∃ g s, a.production.Derives g ∧ Follow s ∧ a.raw ++ rest.flatMap raw = g ++ s := by
        by_cases hnext : ∃ s ∈ rest.head?, s.isElement = true
        · obtain ⟨s, hs, hs'⟩ := hnext
          have hseam : Seam a s := (helement.1 s hs hs').resolve_left (by simpa [isCombinator] using ha)
          have hsimple : s.isCombinator = false := by
            rcases isElement_iff.1 hs' with hp | hp <;> simp [isCombinator, hp]
          have hne : s.raw ≠ [] := (hkind.2 s (List.mem_of_mem_head? hs)).ne_nil
          exact hseam.exists_follow hs hne (hselector ⟨s, hs, hsimple⟩)
        · exact ⟨_, _, hkind.1.derives, hfollow (by simpa using hnext), rfl⟩
      obtain ⟨g, s, hg, hs, heq⟩ := hsplit
      obtain ⟨hselector, hfollow⟩ := selector_of_simple hkind.1.mem ha hg hs
      rw [heq]
      refine ⟨fun h => hfollow ?_, fun _ => hselector⟩
      rw [← isElement_iff, h a rfl]
      exact Bool.false_ne_true

/-! ### Both ways -/

/-- A text that has tokens is a selector exactly if they have the shape of the grammar, up to seams. -/
theorem accepts_iff_arranged {tokens : List Token} (hne : t ≠ []) (h : ofText t = .ok tokens) :
    Production.selector.accepts t = true ↔ Arranged Seam tokens := by
  rw [Production.accepts_iff_matches, Production.matches_pattern]
  obtain ⟨ps, hcut, rfl⟩ := ofText_eq_ok_iff.1 h
  constructor
  · intro hselector
    obtain ⟨-, htokens⟩ := hcut.inOrder.2 hselector
    obtain ⟨s, rest, heq, hs, hrest⟩ := htokens 0
    have hall : InOrder (place 0 ps) := heq ▸ .simple hs hrest
    refine ⟨?_, fun s => hall.isCombinator_of_getLast?, ?_, (hcut.isChain 0).1 (.inr hselector)⟩
    · intro s' hs'
      obtain rfl : s = s' := by simpa [heq] using hs'
      exact hs
    · rw [List.isChain_iff_forall_rel_of_append_cons_cons]
      intro a b before after
      exact hall.not_adjacent
  · intro harranged
    have htext : (place 0 ps).flatMap raw = t := by
      rw [flatMap_raw_place]
      simpa using hcut.text_eq.symm
    have hfirst : ∃ s ∈ (place 0 ps).head?, s.isCombinator = false := by
      cases hhead : (place 0 ps).head? with
      | none =>
        rw [List.head?_eq_none_iff.1 hhead] at htext
        exact absurd htext.symm hne
      | some s => exact ⟨s, rfl, harranged.first s hhead⟩
    rw [← htext]
    exact (selector_of_arranged (fun s hs => isKind_of_mem h hs) harranged.last harranged.alone
      harranged.element).2 hfirst

/-- An escape whose blank the grammar takes for a combinator. -/
theorem arranged_of_seam : ∃ tokens, ofText ".\\31 a|b > *".toList = .ok tokens ∧ Arranged Seam tokens :=
  have h : ofText ".\\31 a|b > *".toList = .ok
      [⟨.classSelector, 0, ".\\31 a".toList⟩, ⟨.typeSelector, 6, "|b".toList⟩, ⟨.combinator, 8, " > ".toList⟩,
        ⟨.universal, 11, "*".toList⟩] := by decide +kernel
  ⟨_, h, (accepts_iff_arranged (by decide) h).1 (by decide +kernel)⟩

/-- A selector whose tokens do not have the shape of the grammar without the seam. -/
theorem not_arranged_of_seam : Production.selector.accepts ".\\31 *".toList = true ∧
    ∃ tokens, ofText ".\\31 *".toList = .ok tokens ∧ ¬ Arranged (fun _ _ => False) tokens := by
  refine ⟨by decide +kernel, [⟨.classSelector, 0, ".\\31 ".toList⟩, ⟨.universal, 5, "*".toList⟩], by decide +kernel, ?_⟩
  intro h
  exact absurd h.element (by decide)

end SelectorSyntax.Token
