import SelectorSyntax.Proofs.Token.Preference

/-!
# Cutting a selector into tokens

The tokens of a text are cut off one after the other, each time the longest beginning that some production of tokens
accepts (`Token.IsFirst`).  `Token.Cut` says so without a search, and `Token.pieces` finds exactly the one cut that a
text has (`Token.pieces_eq_iff`).

The tokens of a text are therefore settled by the text up to where they end: cutting off what is left changes nothing
(`Token.Cut.settled`).
-/

namespace SelectorSyntax.Token

open Pattern

/-- Some production that tokens are instances of accepts the text. -/
def Accepted (x : Text) : Prop :=
  ∃ p ∈ productions, p.accepts x = true

/-- `x` is the longest accepted beginning of the text, and `p` the earliest production that accepts it. -/
structure IsFirst (t : Text) (p : Production) (x : Text) : Prop where
  longest : Longest Accepted t x
  earliest : productions.find? (·.accepts x) = some p

/-- Cutting off first tokens leads from a text to the pieces and to what is left, which begins with no token. -/
inductive Cut : Text → List (Production × Text) → Text → Prop
  | stop {t : Text} : (∀ x, Accepted x → ¬ x <+: t) → Cut t [] t
  | step {p : Production} {x t left : Text} {ps : List (Production × Text)} : IsFirst (x ++ t) p x → Cut t ps left →
      Cut (x ++ t) ((p, x) :: ps) left

/-! ### The first token -/

theorem not_accepted_nil : ¬ Accepted [] := by
  have h : ∀ p ∈ productions, p.accepts [] = false := by decide +kernel
  intro h
  obtain ⟨p, hp, hacc⟩ := h
  rw [h p hp] at hacc
  cases hacc

theorem Accepted.ne_nil {x : Text} (h : Accepted x) : x ≠ [] := by
  rintro rfl
  exact not_accepted_nil h

/-- The length that the search gives is that of the longest accepted beginning. -/
theorem longest_of_leadLength? {p : Production} (hp : p ∈ productions) {t : Text} {n : Nat}
    (h : p.leadLength? t = some n) : Longest (p.accepts · = true) t (t.take n) := by
  rw [Production.leadLength?, leadLength?_eq p.isUnconditional_pattern] at h
  obtain ⟨r, hr, rfl⟩ := Option.map_eq_some_iff.1 h
  obtain ⟨x, -, rfl⟩ := (mem_ends _ _ _).1 (List.mem_of_mem_head? hr)
  have hx := (Production.longestFirst hp _).longest hr
  simp only [Production.accepts_iff_matches, List.length_append, Nat.add_sub_cancel, List.take_left']
  exact hx

theorem leadLength?_eq_none {p : Production} {t x : Text} (h : p.leadLength? t = none) (hx : p.accepts x = true) :
    ¬ x <+: t := by
  intro h
  obtain ⟨r, rfl⟩ := h
  rw [Production.leadLength?, leadLength?_eq p.isUnconditional_pattern, Option.map_eq_none_iff,
    List.head?_eq_none_iff] at h
  rw [Production.accepts_iff_matches] at hx
  have hmem : r ∈ p.pattern.ends (x ++ r) := (mem_ends p.pattern (x ++ r) r).2 ⟨x, hx, rfl⟩
  rw [h] at hmem
  cases hmem

theorem length_take_of_leadLength? {p : Production} (hp : p ∈ productions) {t : Text} {n : Nat}
    (h : p.leadLength? t = some n) : 0 < n ∧ (t.take n).length = n := by
  have hne := Accepted.ne_nil ⟨p, hp, (longest_of_leadLength? hp h).holds⟩
  rw [Production.leadLength?, leadLength?_eq p.isUnconditional_pattern] at h
  obtain ⟨r, -, rfl⟩ := Option.map_eq_some_iff.1 h
  have := List.length_pos_iff.2 hne
  simp only [List.length_take] at this ⊢
  omega

/-- What is found among some of the productions: of the longest accepted beginnings that of the earliest one. -/
def IsBestOf (ps : List Production) (t : Text) : Option (Production × Nat) → Prop
  | none => ∀ p ∈ ps, ∀ x, p.accepts x = true → ¬ x <+: t
  | some (p, n) => (t.take n).length = n ∧ Longest (fun x => ∃ q ∈ ps, q.accepts x = true) t (t.take n) ∧
      ps.find? (·.accepts (t.take n)) = some p

/-- A further production that reaches no farther changes nothing. -/
private theorem IsBestOf.concat {ps : List Production} {p q : Production} {t : Text} {n : Nat}
    (h : IsBestOf ps t (some (p, n))) (hq : ∀ y, q.accepts y = true → y <+: t → y.length ≤ n) :
    IsBestOf (ps ++ [q]) t (some (p, n)) := by
  obtain ⟨hlen, hlongest, hfind⟩ := h
  refine ⟨hlen, ⟨?_, hlongest.isPrefix, ?_⟩, ?_⟩
  · obtain ⟨p', hp', hx⟩ := hlongest.holds
    exact ⟨p', List.mem_append_left _ hp', hx⟩
  · intro y h hyt
    obtain ⟨p', hp', hy⟩ := h
    rcases List.mem_append.1 hp' with hp' | hp'
    · exact hlongest.greatest y ⟨p', hp', hy⟩ hyt
    · rw [hlen]
      exact hq y (List.mem_singleton.1 hp' ▸ hy) hyt
  · rw [List.find?_append, hfind]
    rfl

/-- A further production wins if it reaches farther than all before it. -/
private theorem isBestOf_concat_last {ps : List Production} {q : Production} {t : Text} {m : Nat}
    (hlen : (t.take m).length = m) (hq : Longest (q.accepts · = true) t (t.take m))
    (hps : ∀ p ∈ ps, ∀ x, p.accepts x = true → x <+: t → x.length < m) : IsBestOf (ps ++ [q]) t (some (q, m)) := by
  refine ⟨hlen, ⟨⟨q, by simp, hq.holds⟩, hq.isPrefix, ?_⟩, ?_⟩
  · intro y h hyt
    obtain ⟨p, hp, hy⟩ := h
    rcases List.mem_append.1 hp with hp | hp
    · rw [hlen]
      exact Nat.le_of_lt (hps p hp y hy hyt)
    · exact hq.greatest y (List.mem_singleton.1 hp ▸ hy) hyt
  · have hnone : ps.find? (·.accepts (t.take m)) = none := by
      rw [List.find?_eq_none]
      intro p hp hacc
      have := hps p hp _ hacc hq.isPrefix
      omega
    rw [List.find?_append, hnone]
    simp [hq.holds]

private theorem isBestOf_longer {ps : List Production} {q : Production} {t : Text} {m : Nat}
    {best : Option (Production × Nat)} (h : IsBestOf ps t best) (hlen : (t.take m).length = m)
    (hq : Longest (q.accepts · = true) t (t.take m)) : IsBestOf (ps ++ [q]) t (longer best (q, m)) := by
  match best, h with
  | none, h => exact isBestOf_concat_last hlen hq fun p hp x hx hxt => absurd hxt (h p hp x hx)
  | some (p, n), h =>
    by_cases hnm : n ≥ m
    · simp only [longer, hnm, if_true]
      refine h.concat fun y hy hyt => ?_
      have := hq.greatest y hy hyt
      omega
    · simp only [longer, hnm, if_false]
      refine isBestOf_concat_last hlen hq fun p' hp' x hx hxt => ?_
      obtain ⟨hlenn, hlongest, -⟩ := h
      have := hlongest.greatest x ⟨p', hp', hx⟩ hxt
      omega

private theorem isBestOf_concat_none {ps : List Production} {q : Production} {t : Text}
    {best : Option (Production × Nat)} (h : IsBestOf ps t best) (hq : ∀ x, q.accepts x = true → ¬ x <+: t) :
    IsBestOf (ps ++ [q]) t best := by
  match best, h with
  | none, h =>
    intro p hp x hx
    rcases List.mem_append.1 hp with hp | hp
    · exact h p hp x hx
    · exact hq x (List.mem_singleton.1 hp ▸ hx)
  | some (p, n), h => exact h.concat fun y hy hyt => absurd hyt (hq y hy)

theorem isBestOf_first? (t : Text) : IsBestOf productions t (first? t) := by
  -- by induction on the productions that have been tried, the last one taken off
  have hall : ∀ ps : List Production, (∀ p ∈ ps, p ∈ productions) → IsBestOf ps t
      ((ps.filterMap fun p => do
        let n ← p.leadLength? t
        if n > 0 then some (p, n) else none).foldl longer none) := by
    intro ps hps
    induction ps using List.reverseRecOn with
    | nil => exact fun p hp => nomatch hp
    | append_singleton ps q ih =>
      have hq := hps q (by simp)
      have ih := ih fun p hp => hps p (List.mem_append_left _ hp)
      rw [List.filterMap_append, List.foldl_append]
      cases hlead : q.leadLength? t with
      | none =>
        simp only [List.filterMap_cons, hlead, List.filterMap_nil]
        exact isBestOf_concat_none ih fun x hx => leadLength?_eq_none hlead hx
      | some m =>
        obtain ⟨hpos, hlen⟩ := length_take_of_leadLength? hq hlead
        have hcons : ([q].filterMap fun p => do
            let n ← p.leadLength? t
            if n > 0 then some (p, n) else none) = [(q, m)] := by
          simp [hlead, hpos]
        rw [hcons]
        exact isBestOf_longer ih hlen (longest_of_leadLength? hq hlead)
  exact hall productions fun _ hp => hp

theorem isFirst_of_first? {t : Text} {p : Production} {n : Nat} (h : first? t = some (p, n)) :
    IsFirst t p (t.take n) ∧ (t.take n).length = n := by
  have hbest := isBestOf_first? t
  rw [h] at hbest
  obtain ⟨hlen, hlongest, hfind⟩ := hbest
  exact ⟨⟨hlongest, hfind⟩, hlen⟩

theorem not_accepted_of_first? {t x : Text} (h : first? t = none) (hx : Accepted x) : ¬ x <+: t := by
  have hbest := isBestOf_first? t
  rw [h] at hbest
  obtain ⟨p, hp, hx⟩ := hx
  exact hbest p hp x hx

theorem IsFirst.first? {t x : Text} {p : Production} (h : IsFirst t p x) : first? t = some (p, x.length) := by
  cases hfirst : Token.first? t with
  | none => exact absurd h.longest.isPrefix (not_accepted_of_first? hfirst h.longest.holds)
  | some found =>
    obtain ⟨q, n⟩ := found
    obtain ⟨hq, hn⟩ := isFirst_of_first? hfirst
    obtain rfl := h.longest.unique hq.longest
    have hpq := h.earliest.symm.trans hq.earliest
    rw [hn, Option.some.inj hpq]

/-! ### All tokens -/

theorem pieces_of_cut {t left : Text} {ps : List (Production × Text)} (h : Cut t ps left) :
    pieces first? t = (ps, left) := by
  induction h with
  | @stop t h =>
    cases t with
    | nil => simp [pieces]
    | cons c t =>
      have hnone : first? (c :: t) = none := by
        cases hfirst : first? (c :: t) with
        | none => rfl
        | some found =>
          obtain ⟨hq, -⟩ := isFirst_of_first? hfirst
          exact absurd hq.longest.isPrefix (h _ hq.longest.holds)
      rw [pieces, hnone]
  | @step p x t left ps hx _ ih =>
    obtain ⟨c, x, rfl⟩ := List.exists_cons_of_ne_nil hx.longest.holds.ne_nil
    have hfirst := hx.first?
    rw [List.cons_append] at hfirst ⊢
    rw [pieces, hfirst]
    simp [ih]

theorem exists_cut (t : Text) : ∃ ps left, Cut t ps left := by
  induction hn : t.length using Nat.strongRecOn generalizing t with
  | ind n ih =>
    cases hfirst : first? t with
    | none => exact ⟨[], t, .stop fun x hx => not_accepted_of_first? hfirst hx⟩
    | some found =>
      obtain ⟨hx, hlen⟩ := isFirst_of_first? hfirst
      have hpos := List.length_pos_iff.2 hx.longest.holds.ne_nil
      have hle := hx.longest.isPrefix.length_le
      have hlt : (t.drop found.2).length < n := by
        rw [List.length_drop]
        omega
      obtain ⟨ps, left, hcut⟩ := ih _ hlt _ rfl
      have hstep := Cut.step (p := found.1) (x := t.take found.2) (t := t.drop found.2)
        (by rwa [List.take_append_drop]) hcut
      rw [List.take_append_drop] at hstep
      exact ⟨_, _, hstep⟩

/-- The search cuts a text as it is to be cut. -/
theorem pieces_eq_iff {t left : Text} {ps : List (Production × Text)} :
    pieces first? t = (ps, left) ↔ Cut t ps left := by
  constructor
  · intro h
    obtain ⟨ps', left', hcut⟩ := exists_cut t
    obtain ⟨rfl, rfl⟩ := Prod.mk.inj ((pieces_of_cut hcut).symm.trans h)
    exact hcut
  · exact pieces_of_cut

/-! ### What a cut says -/

variable {t left : Text} {ps : List (Production × Text)}

theorem Cut.text_eq (h : Cut t ps left) : t = ps.flatMap (·.2) ++ left := by
  induction h with
  | stop _ => rfl
  | step _ _ ih =>
    rw [List.flatMap_cons, List.append_assoc, ← ih]

theorem Cut.not_accepted (h : Cut t ps left) : ∀ x, Accepted x → ¬ x <+: left := by
  induction h with
  | stop h => exact h
  | step _ _ ih => exact ih

/-- A first token stays the first one if the text is cut off after it. -/
theorem IsFirst.of_prefix {s x : Text} {p : Production} (h : IsFirst t p x) (hx : x <+: s) (hs : s <+: t) :
    IsFirst s p x :=
  ⟨h.longest.of_prefix hx hs, h.earliest⟩

/-- The tokens are the same if what is left after them is missing. -/
theorem Cut.settled (h : Cut t ps left) : Cut (ps.flatMap (·.2)) ps [] := by
  induction h with
  | stop _ => exact .stop fun x hx hnil => hx.ne_nil (List.prefix_nil.1 hnil)
  | step hx hcut ih =>
    rw [List.flatMap_cons]
    refine .step (hx.of_prefix (List.prefix_append ..) ?_) ih
    rw [hcut.text_eq]
    exact (List.prefix_append_right_inj _).2 (List.prefix_append ..)

theorem flatMap_raw_place (offset : Nat) (ps : List (Production × Text)) :
    (place offset ps).flatMap Token.raw = ps.flatMap (·.2) := by
  induction ps generalizing offset with
  | nil => rfl
  | cons piece ps ih => simp [place, ih]

theorem ofText_eq_ok_iff {tokens : List Token} : ofText t = .ok tokens ↔ ∃ ps, Cut t ps [] ∧ tokens = place 0 ps := by
  obtain ⟨ps, left, hcut⟩ := exists_cut t
  simp only [ofText, ← pieces_eq_iff, pieces_of_cut hcut]
  cases left with
  | nil => simp [eq_comm]
  | cons c left => simp

theorem byteLength_append (x y : Text) : Text.byteLength (x ++ y) = Text.byteLength x + Text.byteLength y := by
  induction x with
  | nil => simp [Text.byteLength]
  | cons c x ih =>
    simp only [Text.byteLength, List.cons_append, List.foldr_cons] at ih ⊢
    omega

/-- Each token begins where those before it end, and is the first one of the text from there on. -/
theorem Cut.token (h : Cut t ps left) {offset : Nat} {before after : List Token} {token : Token}
    (htokens : place offset ps = before ++ token :: after) :
    token.offset = offset + Text.byteLength (before.flatMap Token.raw) ∧
      ∃ rest, t = before.flatMap Token.raw ++ rest ∧ IsFirst rest token.production token.raw := by
  induction h generalizing offset before with
  | stop _ => simp [place] at htokens
  | @step p x t left ps hx hcut ih =>
    cases before with
    | nil =>
      obtain ⟨rfl, -⟩ := List.cons.inj htokens
      exact ⟨rfl, x ++ t, rfl, hx⟩
    | cons first before =>
      simp only [place, List.cons_append, List.cons.injEq] at htokens
      obtain ⟨rfl, htokens⟩ := htokens
      obtain ⟨hoffset, rest, rfl, hfirst⟩ := ih htokens
      refine ⟨?_, rest, by simp, hfirst⟩
      rw [hoffset, List.flatMap_cons, byteLength_append, Nat.add_assoc]

/-- Each token is the longest accepted beginning of the text from its place on, and of the earliest production that
accepts it.  If no token begins at some place, the text before it has tokens and no beginning of the rest is
accepted. -/
theorem ofText_cuts_longest (s : Text) :
    match ofText s with
    | .ok tokens => tokens.flatMap Token.raw = s ∧ ∀ before token after, tokens = before ++ token :: after →
        token.offset = Text.byteLength (before.flatMap Token.raw) ∧ token.raw ≠ [] ∧
        ∃ rest, s = before.flatMap Token.raw ++ rest ∧
          Longest (fun x => ∃ p ∈ productions, p.accepts x = true) rest token.raw ∧
          productions.find? (·.accepts token.raw) = some token.production
    | .error e => ∃ p remainder, e = .unexpectedInput (Text.byteLength p) remainder ∧ s = p ++ remainder ∧
        (∃ tokens, ofText p = .ok tokens) ∧ remainder ≠ [] ∧
        ∀ x, x ≠ [] → x <+: remainder → ∀ q ∈ productions, q.accepts x = false := by
  obtain ⟨ps, left, hcut⟩ := exists_cut s
  have hpieces := pieces_of_cut hcut
  cases left with
  | nil =>
    simp only [ofText, hpieces]
    refine ⟨?_, fun before token after htokens => ?_⟩
    · rw [flatMap_raw_place]
      simpa using hcut.text_eq.symm
    · obtain ⟨hoffset, rest, hrest, hfirst⟩ := hcut.token htokens
      rw [Nat.zero_add] at hoffset
      exact ⟨hoffset, hfirst.longest.holds.ne_nil, rest, hrest, hfirst.longest, hfirst.earliest⟩
  | cons c left =>
    simp only [ofText, hpieces]
    have hok : ofText (ps.flatMap (·.2)) = .ok (place 0 ps) := ofText_eq_ok_iff.2 ⟨ps, hcut.settled, rfl⟩
    refine ⟨_, _, rfl, hcut.text_eq, ⟨_, hok⟩, List.cons_ne_nil _ _, ?_⟩
    intro x _ hx q hq
    rw [Bool.eq_false_iff]
    intro hacc
    exact hcut.not_accepted x ⟨q, hq, hacc⟩ hx

end SelectorSyntax.Token
