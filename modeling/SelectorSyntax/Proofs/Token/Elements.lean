import Mathlib.Data.List.SplitBy
import SelectorSyntax.Proofs.Token.Selector

/-!
# The elements of a selector

Tokens in the order of the grammar are gathered into elements: simple selectors first, and then for each combinator
an element that it leads, with at least one simple selector after it (`Token.Gathered`).  Whatever the tokens are,
nothing is lost or moved, and combinators stand at the beginning of elements only (`Token.elementsOf_eq_splitBy`).
So the elements of tokens in a row are those of the rows before and after a combinator (`Token.elementsOf_append`), and
the texts of the elements are told by the pieces of the text (`Token.elements_of_cut`).
-/

namespace SelectorSyntax.Token

/-! ### Gathering -/

/-- The elements are the tokens, split before each combinator. -/
theorem elementsOf_eq_splitBy (tokens : List Token) :
    elementsOf tokens = tokens.splitBy fun _ s => !s.isCombinator := by
  have hrun (tokens : List Token) (t : Token) (e : List Token) (es : List (List Token)) :
      ((tokens.foldl gather ((t :: e) :: es)).map List.reverse).reverse =
        List.splitBy.loop (fun _ s => !s.isCombinator) tokens t e (es.map List.reverse) := by
    induction tokens generalizing t e es with
    | nil => rfl
    | cons s tokens ih =>
      rw [List.foldl_cons, List.splitBy.loop]
      by_cases hs : s.isCombinator = true
      · have hgather : gather ((t :: e) :: es) s = [s] :: (t :: e) :: es := by simp [gather, hs]
        rw [hgather, ih]
        simp [hs]
      · have hgather : gather ((t :: e) :: es) s = (s :: t :: e) :: es := by simp [gather, hs]
        rw [hgather, ih]
        simp [hs]
  cases tokens with
  | nil => rfl
  | cons t tokens => exact hrun tokens t [] []

theorem flatten_elementsOf (tokens : List Token) : (elementsOf tokens).flatten = tokens := by
  rw [elementsOf_eq_splitBy, List.flatten_splitBy]

theorem ne_nil_of_mem_elementsOf {e : List Token} {tokens : List Token} (he : e ∈ elementsOf tokens) : e ≠ [] := by
  rw [elementsOf_eq_splitBy] at he
  exact List.ne_nil_of_mem_splitBy he

/-- Before a combinator new elements begin. -/
theorem elementsOf_append {c : Token} (hc : c.isCombinator = true) (before after : List Token) :
    elementsOf (before ++ c :: after) = elementsOf before ++ elementsOf (c :: after) := by
  simp only [elementsOf_eq_splitBy]
  exact List.splitBy_append fun _ _ s hs => by
    obtain rfl : c = s := by simpa using hs
    simpa using hc

/-- A combinator in front of a simple selector leads its element. -/
theorem elementsOf_cons {s : Token} (hs : s.isCombinator = false) (c : Token) (tokens : List Token) :
    ∃ first later, elementsOf (s :: tokens) = first :: later ∧
      elementsOf (c :: s :: tokens) = (c :: first) :: later := by
  simp only [elementsOf_eq_splitBy]
  obtain ⟨first, later, hsplit⟩ := List.exists_cons_of_ne_nil (List.splitBy_ne_nil.2 (List.cons_ne_nil s tokens))
  refine ⟨first, later, hsplit, ?_⟩
  obtain ⟨hflatten, hnil, hinside, hbetween⟩ := List.splitBy_eq_iff.1 hsplit
  obtain ⟨d, first, rfl⟩ : ∃ d rest, first = d :: rest := by
    refine List.exists_cons_of_ne_nil ?_
    rintro rfl
    exact hnil (by simp)
  obtain rfl : s = d := (List.cons.inj hflatten).1
  rw [List.forall_mem_cons] at hinside
  refine List.splitBy_eq_iff.2 ⟨by rw [hflatten]; rfl, by simpa using hnil, ?_, ?_⟩
  · exact List.forall_mem_cons.2 ⟨.cons_cons (by simp [hs]) hinside.1, hinside.2⟩
  · cases later with
    | nil => exact .singleton _
    | cons e later =>
      cases hbetween with
      | cons_cons hlast hbetween => exact .cons_cons (by simpa using hlast) hbetween

/-- What gathers tokens looks at nothing but which of them are combinators. -/
theorem elementsOf_map {f : Token → Token} (hf : ∀ s, (f s).isCombinator = s.isCombinator) (tokens : List Token) :
    elementsOf (tokens.map f) = (elementsOf tokens).map (·.map f) := by
  have hgather (es : List (List Token)) (s : Token) :
      gather (es.map (·.map f)) (f s) = (gather es s).map (·.map f) := by
    cases es with
    | nil => rfl
    | cons e es =>
      simp only [List.map_cons, gather, hf]
      split <;> rfl
  have hfoldl (es : List (List Token)) :
      (tokens.map f).foldl gather (es.map (·.map f)) = (tokens.foldl gather es).map (·.map f) := by
    induction tokens generalizing es with
    | nil => rfl
    | cons s tokens ih => rw [List.map_cons, List.foldl_cons, hgather, ih, List.foldl_cons]
  have hall := hfoldl []
  rw [List.map_nil] at hall
  simp [elementsOf, hall, List.map_reverse]

/-- Each member of a chain but the first one has another before it. -/
theorem exists_of_mem_tail {α : Type} {R : α → α → Prop} {l : List α} (h : l.IsChain R) {b : α} (hb : b ∈ l.tail) :
    ∃ a, R a b := by
  induction h with
  | nil => cases hb
  | singleton a => cases hb
  | @cons_cons a c l hac _ ih =>
    rcases List.mem_cons.1 hb with rfl | hb
    · exact ⟨a, hac⟩
    · exact ih hb

/-- A combinator leads every element but the first one. -/
theorem exists_combinator_of_mem_tail {e : List Token} {tokens : List Token} (he : e ∈ (elementsOf tokens).tail) :
    ∃ c simple, e = c :: simple ∧ c.isCombinator = true := by
  rw [elementsOf_eq_splitBy] at he
  obtain ⟨before, -, hne, hhead⟩ := exists_of_mem_tail (List.isChain_getLast_head_splitBy _ tokens) he
  refine ⟨e.head hne, e.tail, (List.cons_head_tail hne).symm, ?_⟩
  simpa using hhead

/-- No combinator stands inside of an element. -/
theorem isCombinator_of_mem_tail {e : List Token} {tokens : List Token} (he : e ∈ elementsOf tokens) {s : Token}
    (hs : s ∈ e.tail) : s.isCombinator = false := by
  rw [elementsOf_eq_splitBy] at he
  obtain ⟨-, hsimple⟩ := exists_of_mem_tail (List.isChain_of_mem_splitBy he) hs
  simpa using hsimple

/-! ### Pieces -/

/-- A piece as a token.  The text of a token does not depend on its place. -/
def ofPiece (piece : Production × Text) : Token :=
  ⟨piece.1, 0, piece.2⟩

theorem map_ofPiece_place (offset : Nat) (ps : List (Production × Text)) :
    (place offset ps).map (fun s => ofPiece (s.production, s.raw)) = ps.map ofPiece := by
  induction ps generalizing offset with
  | nil => rfl
  | cons piece ps ih => rw [place, List.map_cons, ih, List.map_cons]

theorem map_text_place (offset : Nat) (ps : List (Production × Text)) :
    (place offset ps).map text = (ps.map ofPiece).map text := by
  rw [← map_ofPiece_place offset, List.map_map]
  rfl

theorem texts_of_cut {t : Text} {ps : List (Production × Text)} (h : Cut t ps []) :
    texts t = .ok ((ps.map ofPiece).map text) := by
  rw [texts, ofText_eq_ok_iff.2 ⟨ps, h, rfl⟩, ← map_text_place 0]
  rfl

theorem elements_of_cut {t : Text} {ps : List (Production × Text)} (h : Cut t ps []) :
    elements t = .ok ((elementsOf (ps.map ofPiece)).map (·.map text)) := by
  have hmap := elementsOf_map (f := fun s => ofPiece (s.production, s.raw)) (fun _ => rfl) (place 0 ps)
  rw [map_ofPiece_place] at hmap
  rw [elements, ofText_eq_ok_iff.2 ⟨ps, h, rfl⟩, hmap, List.map_map]
  simp only [Function.comp_def, List.map_map]
  rfl

/-! ### Elements in the order of the grammar -/

/-- Elements of a selector, the last one first and each with its last token first, with the number of combinators. -/
def Gathered (acc : List (List Token)) (n : Nat) : Prop :=
  ∃ first later, acc = later ++ [first] ∧ first ≠ [] ∧ (∀ s ∈ first, s.isCombinator = false) ∧ later.length = n ∧
    ∀ e ∈ later, ∃ c simple, e = simple ++ [c] ∧ c.isCombinator = true ∧ simple ≠ [] ∧
      ∀ s ∈ simple, s.isCombinator = false

variable {acc : List (List Token)} {n : Nat} {c t : Token}

theorem Gathered.simple (h : Gathered acc n) (ht : t.isCombinator = false) : Gathered (gather acc t) n := by
  obtain ⟨first, later, rfl, hne, hfirst, hlen, hlater⟩ := h
  cases later with
  | nil =>
    refine ⟨t :: first, [], ?_, List.cons_ne_nil _ _, ?_, hlen, fun e he => nomatch he⟩
    · simp [gather, ht]
    · exact List.forall_mem_cons.2 ⟨ht, hfirst⟩
  | cons e later =>
    -- the token goes to the element that was begun last
    rw [List.forall_mem_cons] at hlater
    obtain ⟨⟨c, simple, rfl, hc, -, hsimple⟩, hlater⟩ := hlater
    refine ⟨first, (t :: (simple ++ [c])) :: later, ?_, hne, hfirst, hlen, List.forall_mem_cons.2 ⟨?_, hlater⟩⟩
    · simp [gather, ht]
    · exact ⟨c, t :: simple, rfl, hc, List.cons_ne_nil _ _, List.forall_mem_cons.2 ⟨ht, hsimple⟩⟩

theorem Gathered.combinator (h : Gathered acc n) (hc : c.isCombinator = true) (ht : t.isCombinator = false) :
    Gathered (gather (gather acc c) t) (n + 1) := by
  obtain ⟨first, later, rfl, hne, hfirst, hlen, hlater⟩ := h
  refine ⟨first, [t, c] :: later, ?_, hne, hfirst, by simp [hlen], List.forall_mem_cons.2 ⟨?_, hlater⟩⟩
  · cases later <;> simp [gather, hc, ht]
  · exact ⟨c, [t], rfl, hc, List.cons_ne_nil _ _, by simpa using ht⟩

theorem Gathered.foldl {tokens : List Token} (h : Gathered acc n) (htokens : InOrder tokens) :
    Gathered (tokens.foldl gather acc) (n + tokens.countP isCombinator) := by
  induction htokens generalizing acc n with
  | nil => exact h
  | simple ht _ ih =>
    rw [List.foldl_cons, List.countP_cons_of_neg (by simp [ht])]
    exact ih (h.simple ht)
  | combinator hc ht _ ih =>
    rw [List.foldl_cons, List.foldl_cons, List.countP_cons_of_pos hc, List.countP_cons_of_neg (by simp [ht])]
    have := ih (h.combinator hc ht)
    rwa [Nat.add_right_comm] at this

theorem elementsOf_of_inOrder {tokens : List Token} (ht : t.isCombinator = false) (h : InOrder tokens) :
    ∃ first later, elementsOf (t :: tokens) = first :: later ∧ first ≠ [] ∧ (∀ s ∈ first, s.isCombinator = false) ∧
      later.length = (t :: tokens).countP isCombinator ∧
      ∀ e ∈ later, ∃ c simple, e = c :: simple ∧ c.isCombinator = true ∧ simple ≠ [] ∧
        ∀ s ∈ simple, s.isCombinator = false := by
  have hstart : Gathered [[t]] 0 := by
    refine ⟨[t], [], rfl, List.cons_ne_nil _ _, ?_, rfl, fun e he => nomatch he⟩
    simpa using ht
  obtain ⟨first, later, heq, hne, hfirst, hlen, hlater⟩ := hstart.foldl h
  refine ⟨first.reverse, (later.map List.reverse).reverse, ?_, by simpa using hne, by simpa using hfirst, ?_, ?_⟩
  · rw [elementsOf, List.foldl_cons, show gather [] t = [[t]] from rfl, heq]
    simp
  · rw [List.countP_cons_of_neg (by simp [ht])]
    simpa using hlen
  · intro e he
    obtain ⟨e', he', rfl⟩ : ∃ e' ∈ later, e'.reverse = e := by simpa using he
    obtain ⟨c, simple, rfl, hc, hne, hsimple⟩ := hlater e' he'
    exact ⟨c, simple.reverse, by simp, hc, by simpa using hne, by simpa using hsimple⟩

/-! ### Order -/

theorem InOrder.not_adjacent {tokens before after : List Token} {a b : Token} (h : InOrder tokens)
    (heq : tokens = before ++ a :: b :: after) : ¬ (a.isCombinator = true ∧ b.isCombinator = true) := by
  intro h
  obtain ⟨ha, hb⟩ := h
  induction h generalizing before with
  | nil => simp at heq
  | simple ht _ ih =>
    cases before with
    | nil =>
      obtain ⟨rfl, -⟩ := List.cons.inj heq
      simp [ht] at ha
    | cons _ before => exact ih (List.cons.inj heq).2
  | combinator _ ht _ ih =>
    match before with
    | [] =>
      obtain ⟨-, heq⟩ := List.cons.inj heq
      obtain ⟨rfl, -⟩ := List.cons.inj heq
      simp [ht] at hb
    | [_] =>
      obtain ⟨-, heq⟩ := List.cons.inj heq
      obtain ⟨rfl, -⟩ := List.cons.inj heq
      simp [ht] at ha
    | _ :: _ :: before => exact ih (List.cons.inj (List.cons.inj heq).2).2

theorem InOrder.isCombinator_of_getLast? {tokens : List Token} {l : Token} (h : InOrder tokens)
    (hl : tokens.getLast? = some l) : l.isCombinator = false := by
  induction h with
  | nil => cases hl
  | @simple t ts ht _ ih =>
    cases ts with
    | nil =>
      obtain rfl : t = l := by simpa using hl
      exact ht
    | cons s ts => exact ih (by simpa using hl)
  | @combinator c t ts _ ht _ ih =>
    cases ts with
    | nil =>
      obtain rfl : t = l := by simpa using hl
      exact ht
    | cons s ts => exact ih (by simpa using hl)

/-- A selector has tokens: the first and the last one are simple selectors, and no two combinators are next to each
other.  Its elements are its tokens in order, one element more than it has combinators, and each but the first one
is a combinator with simple selectors after it. -/
theorem ofText_of_selector {t : Text} (h : Production.selector.accepts t = true) :
    ∃ tokens, ofText t = .ok tokens ∧
      (∃ s, tokens.head? = some s ∧ s.isCombinator = false) ∧
      (∃ s, tokens.getLast? = some s ∧ s.isCombinator = false) ∧
      (∀ before a b after, tokens = before ++ a :: b :: after → ¬ (a.isCombinator = true ∧ b.isCombinator = true)) ∧
      ∃ first later, elements t = .ok ((first :: later).map (·.map text)) ∧ (first :: later).flatten = tokens ∧
        later.length = tokens.countP isCombinator ∧
        first ≠ [] ∧ (∀ s ∈ first, s.isCombinator = false) ∧
        ∀ e ∈ later, ∃ c simple, e = c :: simple ∧ c.isCombinator = true ∧ simple ≠ [] ∧
          ∀ s ∈ simple, s.isCombinator = false := by
  rw [Production.accepts_iff_matches, Production.matches_pattern] at h
  obtain ⟨ps, left, hcut⟩ := exists_cut t
  obtain ⟨rfl, htokens⟩ := hcut.inOrder.2 h
  obtain ⟨s, rest, heq, hs, hrest⟩ := htokens 0
  have hok : ofText t = .ok (s :: rest) := ofText_eq_ok_iff.2 ⟨ps, hcut, heq.symm⟩
  have hall : InOrder (s :: rest) := .simple hs hrest
  obtain ⟨first, later, helements, hne, hfirst, hlen, hlater⟩ := elementsOf_of_inOrder hs hrest
  have hlast : ∃ l, (s :: rest).getLast? = some l ∧ l.isCombinator = false := by
    cases hl : (s :: rest).getLast? with
    | none => simp at hl
    | some l => exact ⟨l, rfl, hall.isCombinator_of_getLast? hl⟩
  have hgathered : elements t = .ok ((first :: later).map (·.map text)) := by
    rw [elements, hok, ← helements]
    rfl
  have hflatten : (first :: later).flatten = s :: rest := by rw [← helements, flatten_elementsOf]
  exact ⟨s :: rest, hok, ⟨s, rfl, hs⟩, hlast, fun _ _ _ _ => hall.not_adjacent, first, later, hgathered, hflatten,
    hlen, hne, hfirst, hlater⟩

/-- An escape takes the blank after it into the name, and another blank stays for the combinator. -/
theorem ofText_of_escapes : Production.selector.accepts ".a\\31  b > c|d".toList = true ∧
    ∃ tokens, ofText ".a\\31  b > c|d".toList = .ok tokens ∧
      (∃ s, tokens.head? = some s ∧ s.isCombinator = false) ∧
      (∃ s, tokens.getLast? = some s ∧ s.isCombinator = false) ∧
      (∀ before a b after, tokens = before ++ a :: b :: after → ¬ (a.isCombinator = true ∧ b.isCombinator = true)) ∧
      ∃ first later, elements ".a\\31  b > c|d".toList = .ok ((first :: later).map (·.map text)) ∧
        (first :: later).flatten = tokens ∧ later.length = tokens.countP isCombinator ∧
        first ≠ [] ∧ (∀ s ∈ first, s.isCombinator = false) ∧
        ∀ e ∈ later, ∃ c simple, e = c :: simple ∧ c.isCombinator = true ∧ simple ≠ [] ∧
          ∀ s ∈ simple, s.isCombinator = false :=
  have h : Production.selector.accepts ".a\\31  b > c|d".toList = true := by decide +kernel
  ⟨h, ofText_of_selector h⟩

end SelectorSyntax.Token
