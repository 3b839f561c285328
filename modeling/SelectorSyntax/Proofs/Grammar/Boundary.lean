import SelectorSyntax.Proofs.Grammar.Shape

/-!
# Boundaries

Where a selector may be taken apart.  After a simple selector come further ones, then combined sequences (`Follow`).
A blank that a selector has as a combinator may also be read as the end of an escape: of `.\31 |a` the longest class
leaves `|a`, which no simple selector may follow, but which is a selector itself.  So a text is `AtBoundary` if it is
one or the other.

* In the second case the blank is a `Seam` of what was taken: the grammar has the combinator there, and before it the
  same name without the blank.  After the blank the name may have gone on, but then with a namespace only, as in
  `.\31 a|b`, where the longest class is `.\31 a`.
* So the longest name leaves what may follow, or a selector after a seam (`leaves_of_name`).
-/

namespace SelectorSyntax.Derivation

/-! ### First characters -/

/-- The characters that a type or universal selector may begin with. -/
def IsElementHead (c : Char) : Prop :=
  c = '*' ∨ c = '|' ∨ IsNameHead c

/-- The characters that the other simple selectors may begin with. -/
def IsQualifierHead (c : Char) : Prop :=
  c = '#' ∨ c = '.' ∨ c = '[' ∨ c = ':'

/-- The characters that a combinator consists of. -/
def IsCombinatorChar (c : Char) : Prop :=
  c = '+' ∨ c = '>' ∨ c = '~' ∨ Text.isBlank c

instance : DecidablePred IsElementHead := fun _ => inferInstanceAs (Decidable (_ ∨ _))

instance : DecidablePred IsQualifierHead := fun _ => inferInstanceAs (Decidable (_ ∨ _))

instance : DecidablePred IsCombinatorChar := fun _ => inferInstanceAs (Decidable (_ ∨ _))

variable {t u x y : Text} {c : Char}

theorem NamespaceQualifier.head (h : NamespaceQualifier t) : ∃ c u, t = c :: u ∧ IsElementHead c := by
  rcases h with _ | h | _
  · exact ⟨_, _, rfl, .inr (.inl rfl)⟩
  · obtain ⟨c, u, rfl, hc⟩ := h.head
    exact ⟨_, _, rfl, .inr (.inr hc)⟩
  · exact ⟨_, _, rfl, .inl rfl⟩

/-- The name of an element, or the sign for any. -/
def LocalName (t : Text) : Prop :=
  Ident t ∨ t = ['*']

theorem LocalName.head (h : LocalName t) : ∃ c u, t = c :: u ∧ (c = '*' ∧ u = [] ∨ IsNameHead c ∧ Ident t) := by
  rcases h with h | rfl
  · obtain ⟨c, u, rfl, hc⟩ := h.head
    exact ⟨c, u, rfl, .inr ⟨hc, h⟩⟩
  · exact ⟨_, _, rfl, .inl ⟨rfl, rfl⟩⟩

theorem element_iff : TypeSelector t ∨ Universal t ↔
    ∃ n y, Maybe NamespaceQualifier n ∧ LocalName y ∧ t = n ++ y := by
  constructor
  · intro h
    rcases h with ⟨hn, hi⟩ | h
    · exact ⟨_, _, hn, .inl hi, rfl⟩
    · obtain ⟨hn⟩ := h
      exact ⟨_, _, hn, .inr rfl, rfl⟩
  · intro h
    obtain ⟨n, y, hn, hi | rfl, rfl⟩ := h
    · exact .inl (.mk hn hi)
    · exact .inr (.mk hn)

theorem head_of_element (h : TypeSelector t ∨ Universal t) : ∃ c u, t = c :: u ∧ IsElementHead c := by
  obtain ⟨n, y, hn, hy, rfl⟩ := element_iff.1 h
  rcases hn with _ | hn
  · obtain ⟨c, u, rfl, ⟨rfl, -⟩ | ⟨hc, -⟩⟩ := hy.head
    · exact ⟨_, _, rfl, .inl rfl⟩
    · exact ⟨_, _, rfl, .inr (.inr hc)⟩
  · obtain ⟨c, u, rfl, hc⟩ := hn.head
    exact ⟨c, u ++ y, rfl, hc⟩

theorem Colons.head (h : Colons t) : ∃ u, t = ':' :: u := by
  rcases h with _ | _ <;> exact ⟨_, rfl⟩

theorem Called.head (h : Called t) : ∃ u, t = ':' :: u := by
  obtain ⟨hc, -, -⟩ := h
  obtain ⟨u, rfl⟩ := hc.head
  exact ⟨_, rfl⟩

theorem Pseudo.head (h : Pseudo t) : ∃ u, t = ':' :: u := by
  rcases h.ident_or_called with ⟨_, _, hc, -, rfl⟩ | h
  · obtain ⟨u, rfl⟩ := hc.head
    exact ⟨_, rfl⟩
  · exact h.head

theorem Qualifier.head (h : Qualifier t) : ∃ c u, t = c :: u ∧ IsQualifierHead c := by
  rcases h with h | h | h | h | h
  · obtain ⟨-⟩ := h
    exact ⟨_, _, rfl, .inl rfl⟩
  · obtain ⟨-⟩ := h
    exact ⟨_, _, rfl, .inr (.inl rfl)⟩
  · obtain ⟨-, -, -, -, -⟩ := h
    exact ⟨_, _, rfl, .inr (.inr (.inl rfl))⟩
  · obtain ⟨u, rfl⟩ := h.head
    exact ⟨_, _, rfl, .inr (.inr (.inr rfl))⟩
  · obtain ⟨u, rfl⟩ := h.called.head
    exact ⟨_, _, rfl, .inr (.inr (.inr rfl))⟩

theorem isCombinatorChar_of_symbol (hc : c = '+' ∨ c = '>' ∨ c = '~') : IsCombinatorChar c := by
  rcases hc with rfl | rfl | rfl <;> decide

theorem IsCombinatorChar.not_isOpening (hc : IsCombinatorChar c) : ¬ IsOpening c := by
  rintro (rfl | rfl) <;> exact absurd hc (by decide)

theorem Combinator.forall_mem (h : Combinator t) : ∀ c ∈ t, IsCombinatorChar c := by
  rcases h with ⟨ha, hd, hb⟩ | ⟨h, -⟩
  · intro c hc
    rcases List.mem_append.1 hc with hc | hc
    · exact .inr (.inr (.inr (ha c hc)))
    · rcases List.mem_cons.1 hc with rfl | hc
      · exact isCombinatorChar_of_symbol hd
      · exact .inr (.inr (.inr (hb c hc)))
  · exact fun c hc => .inr (.inr (.inr (h c hc)))

theorem Combinator.ne_nil (h : Combinator t) : t ≠ [] := by
  rcases h with ⟨-, -, -⟩ | ⟨-, hne⟩
  · simp
  · exact hne

theorem colons_eq {c d i j s : Text} (hc : Colons c) (hd : Colons d) (hi : Ident i) (hj : Ident j)
    (heq : c ++ (i ++ t) = d ++ (j ++ s)) : c = d := by
  obtain ⟨a, u, rfl, ha⟩ := hi.head
  obtain ⟨b, v, rfl, hb⟩ := hj.head
  rcases hc with _ | _ <;> rcases hd with _ | _
  · rfl
  · obtain rfl : a = ':' := by simpa using (List.cons.inj (List.cons.inj heq).2).1
    exact absurd ha (by decide)
  · obtain rfl : ':' = b := by simpa using (List.cons.inj (List.cons.inj heq).2).1
    exact absurd hb (by decide)
  · rfl

theorem not_isQualifierHead (hc : IsNamePlain c ∨ c = '\\') : ¬ IsQualifierHead c := by
  intro h
  rcases h with rfl | rfl | rfl | rfl <;> exact absurd hc (by decide)

theorem not_isCombinatorChar (hc : IsNamePlain c ∨ c = '\\') : ¬ IsCombinatorChar c := by
  intro h
  rcases h with rfl | rfl | rfl | hb
  · exact absurd hc (by decide)
  · exact absurd hc (by decide)
  · exact absurd hc (by decide)
  · rcases hc with hc | rfl
    · exact hc.not_isBlank hb
    · exact absurd hb (by decide)

theorem not_isCombinatorChar_of_head (h : IsElementHead c ∨ IsQualifierHead c) : ¬ IsCombinatorChar c := by
  rcases h with (rfl | rfl | rfl | rfl | h | h) | (rfl | rfl | rfl | rfl)
  · decide
  · decide
  · decide
  · decide
  · exact not_isCombinatorChar (.inl (.inl h))
  · exact not_isCombinatorChar (.inl (.inr (.inr (.inr h))))
  · decide
  · decide
  · decide
  · decide

/-! ### Selectors taken apart -/

/-- What may follow a simple selector. -/
def Follow (t : Text) : Prop :=
  ∃ q r, Many Qualifier q ∧ Many CombinedSequence r ∧ t = q ++ r

/-- What a selector is left at after a token. -/
def AtBoundary (t : Text) : Prop :=
  Follow t ∨ Selector t

theorem Selector.follow (hx : Combinator x) (hy : Selector y) : Follow (x ++ y) := by
  obtain ⟨hs, hr⟩ := hy
  exact ⟨[], _, .nil, .cons (.mk hx hs) hr, by simp⟩

theorem Qualifier.follow (hx : Qualifier x) (hy : Follow y) : Follow (x ++ y) := by
  obtain ⟨q, r, hq, hr, rfl⟩ := hy
  exact ⟨x ++ q, r, .cons hx hq, hr, by simp⟩

theorem follow_cases (h : Follow t) : t = [] ∨ (∃ g r, Qualifier g ∧ Follow r ∧ t = g ++ r) ∨
    ∃ k s, Combinator k ∧ Selector s ∧ t = k ++ s := by
  obtain ⟨q, r, hq, hr, rfl⟩ := h
  cases hq with
  | cons hg hq => exact .inr (.inl ⟨_, _, hg, ⟨_, r, hq, hr, rfl⟩, by simp⟩)
  | nil =>
    cases hr with
    | nil => exact .inl rfl
    | cons hk hr =>
      obtain ⟨hk, hs⟩ := hk
      exact .inr (.inr ⟨_, _, hk, .mk hs hr, by simp⟩)

theorem selector_iff : Selector t ↔
    ∃ g r, ((TypeSelector g ∨ Universal g) ∨ Qualifier g) ∧ Follow r ∧ t = g ++ r := by
  constructor
  · intro h
    obtain ⟨⟨hs, hq⟩ | ⟨hs, hq⟩ | hq, hr⟩ := h
    · exact ⟨_, _, .inl (.inl hs), ⟨_, _, hq, hr, rfl⟩, by simp⟩
    · exact ⟨_, _, .inl (.inr hs), ⟨_, _, hq, hr, rfl⟩, by simp⟩
    · obtain ⟨hg, hq⟩ := hq
      exact ⟨_, _, .inr hg, ⟨_, _, hq, hr, rfl⟩, by simp⟩
  · intro h
    obtain ⟨g, _, hg, ⟨q, r, hq, hr, rfl⟩, rfl⟩ := h
    rw [← List.append_assoc]
    rcases hg with (hg | hg) | hg
    · exact .mk (.typeSelector hg hq) hr
    · exact .mk (.universal hg hq) hr
    · exact .mk (.qualifiers (.cons hg hq)) hr

theorem Follow.head (h : Follow (c :: t)) : IsQualifierHead c ∨ IsCombinatorChar c := by
  rcases follow_cases h with heq | ⟨g, r, hg, -, heq⟩ | ⟨k, s, hk, -, heq⟩
  · cases heq
  · obtain ⟨d, u, rfl, hd⟩ := hg.head
    exact .inl ((List.cons.inj heq).1 ▸ hd)
  · obtain ⟨d, u, rfl⟩ := List.exists_cons_of_ne_nil hk.ne_nil
    exact .inr ((List.cons.inj heq).1 ▸ hk.forall_mem d (by simp))

theorem Selector.head (h : Selector t) : ∃ c u, t = c :: u ∧ (IsElementHead c ∨ IsQualifierHead c) := by
  obtain ⟨g, r, hg | hg, -, rfl⟩ := selector_iff.1 h
  · obtain ⟨c, u, rfl, hc⟩ := head_of_element hg
    exact ⟨c, u ++ r, rfl, .inl hc⟩
  · obtain ⟨c, u, rfl, hc⟩ := hg.head
    exact ⟨c, u ++ r, rfl, .inr hc⟩

theorem AtBoundary.head (h : AtBoundary (c :: t)) : IsElementHead c ∨ IsQualifierHead c ∨ IsCombinatorChar c := by
  rcases h with h | h
  · exact .inr h.head
  · obtain ⟨d, u, heq, hd⟩ := h.head
    obtain rfl := (List.cons.inj heq).1
    exact hd.imp_right .inl

/-! ### After a name -/

/-- A bar before a name begins a selector, without the namespace that may stand before it. -/
theorem selector_of_bar (hy : LocalName y) (ht : Follow t) : Selector ('|' :: (y ++ t)) :=
  selector_iff.2 ⟨'|' :: y, t, .inl (element_iff.2 ⟨['|'], y, .present .empty, hy, rfl⟩), ht, rfl⟩

/-- After a bar that begins a selector there is a name. -/
theorem localName_of_bar (h : Selector ('|' :: t)) : ∃ y r, LocalName y ∧ Follow r ∧ t = y ++ r := by
  obtain ⟨g, r, hg | hg, hr, heq⟩ := selector_iff.1 h
  · obtain ⟨n, y, hn, hy, rfl⟩ := element_iff.1 hg
    rcases hn with _ | (_ | hj | _)
    · obtain ⟨d, u, rfl, ⟨rfl, -⟩ | ⟨hd, -⟩⟩ := hy.head
      · exact absurd (List.cons.inj heq).1 (by decide)
      · obtain rfl := (List.cons.inj heq).1
        exact absurd hd (by decide)
    · exact ⟨y, r, hy, hr, (List.cons.inj heq).2⟩
    · obtain ⟨d, u, rfl, hd⟩ := hj.head
      obtain rfl := (List.cons.inj heq).1
      exact absurd hd (by decide)
    · exact absurd (List.cons.inj heq).1 (by decide)
  · obtain ⟨d, u, rfl, hd⟩ := hg.head
    obtain rfl := (List.cons.inj heq).1
    exact absurd hd (by decide)

/-- A blank that may follow a simple selector is one of a combinator. -/
theorem Follow.tail_of_blank (h : Follow (c :: t)) (hc : Text.isBlank c) : AtBoundary t := by
  rcases follow_cases h with heq | ⟨g, r, hg, -, heq⟩ | ⟨k, s, hk, hs, heq⟩
  · cases heq
  · obtain ⟨d, u, rfl, hd⟩ := hg.head
    obtain rfl := (List.cons.inj heq).1
    exact absurd (.inr (.inr (.inr hc))) (not_isCombinatorChar_of_head (.inr hd))
  · rcases hk with @⟨a, b, d, ha, hd, hb⟩ | @⟨a, ha, hne⟩
    · cases a with
      | nil =>
        obtain rfl := (List.cons.inj heq).1
        rcases hd with rfl | rfl | rfl <;> exact absurd hc (by decide)
      | cons e a =>
        obtain ⟨rfl, rfl⟩ := List.cons.inj heq
        have ha : Blanks a := fun c hc => ha c (List.mem_cons_of_mem _ hc)
        exact .inl (hs.follow (.symbol ha hd hb))
    · obtain ⟨e, a, rfl⟩ := List.exists_cons_of_ne_nil hne
      obtain ⟨rfl, rfl⟩ := List.cons.inj heq
      have ha : Blanks a := fun c hc => ha c (List.mem_cons_of_mem _ hc)
      by_cases hne : a = []
      · -- the blank was the whole combinator, so that a selector begins here
        rw [hne]
        exact .inr hs
      · exact .inl (hs.follow (.blanks ha hne))

/-- A blank of `x` that can be read as the combinator before `r`.  What comes before the blank has the property, and
what comes after it is nothing or a namespace, whose bar `r` begins with. -/
def Seam (P : Text → Prop) (x r : Text) : Prop :=
  ∃ g c n, P g ∧ Text.isBlank c ∧ x = g ++ c :: n ∧ (n = [] ∨ Ident n ∧ r.head? = some '|')

/-- At a seam `x` is cut short, and its blank is the combinator. -/
theorem Seam.exists_follow {P : Text → Prop} {r : Text} (h : Seam P x r) (hr : Selector r) :
    ∃ g s, P g ∧ Follow s ∧ x ++ r = g ++ s := by
  obtain ⟨g, c, n, hg, hc, rfl, hn⟩ := h
  have hselector : Selector (n ++ r) := by
    rcases hn with rfl | ⟨hn, hbar⟩
    · exact hr
    · -- what was an empty namespace gets the identifier before its bar
      obtain ⟨r, rfl⟩ : ∃ s, r = '|' :: s := ⟨r.tail, (List.cons_head?_tail hbar).symm⟩
      obtain ⟨y, s, hy, hs, rfl⟩ := localName_of_bar hr
      refine selector_iff.2 ⟨n ++ ['|'] ++ y, s, .inl (element_iff.2 ⟨_, y, .present (.ident hn), hy, rfl⟩), hs, ?_⟩
      simp
  have hblank : Combinator [c] := .blanks (by simpa [Blanks] using hc) (List.cons_ne_nil _ _)
  exact ⟨g, [c] ++ (n ++ r), hg, hselector.follow hblank, by simp⟩

/-- What the longest `x` may leave: what may follow a simple selector, or a selector whose combinator is at a seam. -/
def Leaves (P : Text → Prop) (x r : Text) : Prop :=
  Follow r ∨ Selector r ∧ Seam P x r

section

variable {P Q : Text → Prop} {r : Text}

theorem Leaves.atBoundary (h : Leaves P x r) : AtBoundary r :=
  h.imp_right And.left

theorem Leaves.after {a : Text} (hPQ : ∀ g, P g → Q (a ++ g)) (h : Leaves P x r) : Leaves Q (a ++ x) r := by
  rcases h with h | ⟨hr, g, c, n, hg, hc, rfl, hn⟩
  · exact .inl h
  · exact .inr ⟨hr, a ++ g, c, n, hPQ g hg, hc, by simp, hn⟩

theorem Leaves.mono (hPQ : ∀ g, P g → Q g) (h : Leaves P x r) : Leaves Q x r :=
  Leaves.after (a := []) hPQ h

end

/-- After a name only a blank can both belong to a longer name and follow a simple selector. -/
private theorem isBlank_of_follow {s : Text} (hx : Many NameChar x) (hxt : Many NameChar (x ++ c :: t))
    (h : Follow (c :: s)) : Text.isBlank c := by
  have hinner := (escaping_of_many_nameChar hx).allowed_of_append (escaping_of_many_nameChar hxt)
  have hhead := h.head
  rcases hinner with rfl | hplain | hblank
  · exact absurd hhead (by decide)
  · exact absurd hhead (not_or.2 ⟨not_isQualifierHead (.inl hplain), not_isCombinatorChar (.inl hplain)⟩)
  · exact hblank

/-- A selector that a longer name goes on into begins with an identifier, which may be its namespace. -/
private theorem ident_of_selector {z r : Text} (hx : Many NameChar x) (hxz : Many NameChar (x ++ z)) (hne : z ≠ [])
    (h : Selector (z ++ r)) : ∃ i s, Ident i ∧ z ++ r = i ++ s ∧
      (Follow s ∨ ∃ y w, LocalName y ∧ Follow w ∧ s = '|' :: (y ++ w)) := by
  obtain ⟨c, z, rfl⟩ := List.exists_cons_of_ne_nil hne
  have hinner := (escaping_of_many_nameChar hx).allowed_of_append (escaping_of_many_nameChar hxz)
  obtain ⟨g, s, hg | hg, hs, heq⟩ := selector_iff.1 h
  · obtain ⟨n, y, hn, hy, rfl⟩ := element_iff.1 hg
    rcases hn with _ | (_ | @⟨j, hj⟩ | _)
    · rcases hy with hy | rfl
      · exact ⟨y, s, hy, heq, .inl hs⟩
      · obtain rfl := (List.cons.inj heq).1
        exact absurd hinner (by decide)
    · obtain rfl := (List.cons.inj heq).1
      exact absurd hinner (by decide)
    · exact ⟨j, '|' :: (y ++ s), hj, by simpa using heq, .inr ⟨y, s, hy, hs, rfl⟩⟩
    · obtain rfl := (List.cons.inj heq).1
      exact absurd hinner (by decide)
  · obtain ⟨d, u, rfl, hd⟩ := hg.head
    obtain rfl := (List.cons.inj heq).1
    rcases hd with rfl | rfl | rfl | rfl <;> exact absurd hinner (by decide)

/-- The longest name, where the grammar has a name and then what may follow it. -/
theorem leaves_of_name {u r s : Text} (hx : Many NameChar x) (hs : Follow s)
    (hu : Longest (Many NameChar) (u ++ r) u) (heq : x ++ s = u ++ r) :
    Leaves (fun g => Many NameChar g ∧ x <+: g) u r := by
  -- by induction on what the grammar has after the name: what the longest name takes of it, it loses
  induction hn : s.length using Nat.strongRecOn generalizing x s with
  | ind n ih =>
    have hlonger {y s' : Text} (hy : Many NameChar (x ++ y)) (hs' : Follow s') (hlen : s'.length < n)
        (heq : x ++ y ++ s' = u ++ r) : Leaves (fun g => Many NameChar g ∧ x <+: g) u r := by
      have hleaves := ih s'.length hlen hy hs' heq rfl
      exact hleaves.mono fun g hg => ⟨hg.1, (List.prefix_append x y).trans hg.2⟩
    obtain ⟨z, rfl⟩ := hu.prefix_of hx ⟨s, heq⟩
    obtain rfl : s = z ++ r := by simpa using heq
    cases z with
    | nil => exact .inl hs
    | cons c z =>
      have hc : Text.isBlank c := isBlank_of_follow hx hu.holds hs
      have hxc : Many NameChar (x ++ [c]) := many_nameChar_of_blank (escaping_of_many_nameChar hx) hc hu.holds
      rcases hs.tail_of_blank hc with hs' | hs'
      · exact hlonger hxc hs' (by simp [← hn]) (by simp)
      · -- a selector begins after the blank, and the name ends here or takes the first identifier of it
        by_cases hz : z = []
        · subst hz
          exact .inr ⟨hs', x, c, [], ⟨hx, List.prefix_rfl⟩, hc, rfl, .inl rfl⟩
        · obtain ⟨i, s', hi, heq', hs' | ⟨y, w, hy, hw, rfl⟩⟩ :=
            ident_of_selector hxc (by simpa using hu.holds) hz hs'
          · have hlen := congrArg List.length heq'
            simp only [List.length_cons, List.length_append, List.cons_append] at hlen hn
            exact hlonger (by simpa using hxc.append hi.many_nameChar) hs' (by omega) (by simp [heq'])
          · -- the identifier is a namespace, and the name ends before its bar
            have hlongest : Longest (Many NameChar) (x ++ [c] ++ i ++ '|' :: (y ++ w)) (x ++ [c] ++ i) :=
              longest_of_stop (fun _ => escaping_of_many_nameChar) (hxc.append hi.many_nameChar) (by decide)
            have hzi : z = i := by
              have htext : x ++ [c] ++ i ++ '|' :: (y ++ w) = x ++ c :: z ++ r := by simp [heq']
              rw [htext] at hlongest
              simpa using hu.unique hlongest
            subst hzi
            obtain rfl := List.append_cancel_left heq'
            exact .inr ⟨selector_of_bar hy hw, x, c, z, ⟨hx, List.prefix_rfl⟩, hc, rfl, .inr ⟨hi, rfl⟩⟩

end SelectorSyntax.Derivation
