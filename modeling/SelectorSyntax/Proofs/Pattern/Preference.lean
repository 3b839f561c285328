import Mathlib.Data.List.Infix
import SelectorSyntax.Proofs.Grammar.Derivation
import SelectorSyntax.Proofs.Pattern.Language

/-!
# Preference and length

The search at the beginning of a text takes the way through a pattern that is preferred, which need not be the
longest one: of `a` or `ab` the first alternative wins.  `Pattern.LongestFirst` says of a pattern that the way it
prefers always is a longest one.

* A pattern whose texts are no proper beginnings of each other has the property (`longestFirst_of_prefixFree`).
* One pattern after another has it if the longest match of the first one never costs length in the end (`CatchesUp`,
  `LongestFirst.seq`), and so has a greedy repetition (`LongestFirst.star`).
* Of two alternatives the first must be the longer one wherever both match (`LongestFirst.alt`).
-/

namespace SelectorSyntax

variable {P Q : Text → Prop} {t x y : Text}

theorem prefix_append_cases (h : t <+: x ++ y) : t <+: x ∨ ∃ z, t = x ++ z ∧ z <+: y := by
  rcases List.prefix_or_prefix_of_prefix h (List.prefix_append x y) with hx | ⟨z, rfl⟩
  · exact .inl hx
  · exact .inr ⟨z, rfl, (List.prefix_append_right_inj x).1 h⟩

/-- The longest of the texts with the property that `t` begins with. -/
structure Longest (P : Text → Prop) (t x : Text) : Prop where
  holds : P x
  isPrefix : x <+: t
  greatest : ∀ y, P y → y <+: t → y.length ≤ x.length

theorem Longest.unique (hx : Longest P t x) (hy : Longest P t y) : x = y := by
  have hle := hy.greatest x hx.holds hx.isPrefix
  have hge := hx.greatest y hy.holds hy.isPrefix
  exact (List.prefix_of_prefix_length_le hx.isPrefix hy.isPrefix hle).eq_of_length_le hge

theorem exists_longest (hx : P x) (ht : x <+: t) : ∃ y, Longest P t y := by
  induction hn : t.length - x.length using Nat.strongRecOn generalizing x with
  | ind n ih =>
    by_cases h : ∀ y, P y → y <+: t → y.length ≤ x.length
    · exact ⟨x, hx, ht, h⟩
    · push Not at h
      obtain ⟨y, hy, hyt, hlt⟩ := h
      have hle : y.length ≤ t.length := hyt.length_le
      exact ih _ (by omega) hy hyt rfl

/-- Every other text with the property is a beginning of the longest one. -/
theorem Longest.prefix_of (hx : Longest P t x) (hy : P y) (ht : y <+: t) : y <+: x :=
  List.prefix_of_prefix_length_le ht hx.isPrefix (hx.greatest y hy ht)

/-- A beginning that nothing with the property goes on after is the longest one. -/
theorem longest_of_eq_nil (hx : P x) (h : ∀ y, P (x ++ y) → y <+: t → y = []) : Longest P (x ++ t) x := by
  refine ⟨hx, List.prefix_append .., fun z hz hzt => ?_⟩
  rcases prefix_append_cases hzt with hzx | ⟨y, rfl, hyt⟩
  · exact hzx.length_le
  · rw [h y hz hyt, List.append_nil]

theorem Longest.eq_nil (hx : Longest P (x ++ t) x) (hy : P (x ++ y)) (ht : y <+: t) : y = [] := by
  have hle := hx.greatest _ hy ((List.prefix_append_right_inj x).2 ht)
  rw [List.length_append] at hle
  exact List.length_eq_zero_iff.1 (by omega)

/-- The longest one stays the longest in a shorter text. -/
theorem Longest.of_prefix {s : Text} (hx : Longest P t x) (hxs : x <+: s) (hs : s <+: t) : Longest P s x :=
  ⟨hx.holds, hxs, fun y hy hys => hx.greatest y hy (hys.trans hs)⟩

/-- What follows a known beginning is the longest text there, if the whole is. -/
theorem Longest.after {a : Text} (hx : Longest P (a ++ t) (a ++ x)) (hQx : Q x) (hQ : ∀ y, Q y → P (a ++ y)) :
    Longest Q t x := by
  refine ⟨hQx, (List.prefix_append_right_inj _).1 hx.isPrefix, fun y hy hyt => ?_⟩
  have := hx.greatest (a ++ y) (hQ y hy) ((List.prefix_append_right_inj _).2 hyt)
  simpa using this

/-- No text with the property goes on after another one. -/
def PrefixFree (P : Text → Prop) : Prop :=
  ∀ x y, P x → P (x ++ y) → y = []

theorem PrefixFree.mono (h : ∀ x, P x → Q x) (hQ : PrefixFree Q) : PrefixFree P := by
  intro x y hx hxy
  exact hQ x y (h x hx) (h _ hxy)

theorem PrefixFree.eq_of_prefix (hP : PrefixFree P) (hx : P x) (hxt : x <+: t) (hy : P y) (hyt : y <+: t) :
    x = y := by
  rcases List.prefix_or_prefix_of_prefix hxt hyt with ⟨z, rfl⟩ | ⟨z, rfl⟩
  · rw [hP x z hx hy, List.append_nil]
  · rw [hP y z hy hx, List.append_nil]

theorem PrefixFree.longest (hP : PrefixFree P) (hx : P x) (hxt : x <+: t) : Longest P t x := by
  refine ⟨hx, hxt, fun y hy hyt => ?_⟩
  rw [hP.eq_of_prefix hy hyt hx hxt]

/-- After the longest text of `P` one can always get at least as far with a text of `Q` as after a shorter one. -/
def CatchesUp (P Q : Text → Prop) : Prop :=
  ∀ t x x₀ y, Longest P t x₀ → P x → Q y → x ++ y <+: t →
    ∃ y', Q y' ∧ x₀ ++ y' <+: t ∧ (x ++ y).length ≤ (x₀ ++ y').length

theorem PrefixFree.catchesUp (hP : PrefixFree P) (Q : Text → Prop) : CatchesUp P Q := by
  intro t x x₀ y h₀ hx hy ht
  obtain rfl := hP.eq_of_prefix hx ((List.prefix_append x y).trans ht) h₀.holds h₀.isPrefix
  exact ⟨y, hy, ht, Nat.le_refl _⟩

/-- An optional text is told from what may follow it. -/
theorem PrefixFree.catchesUp_maybe (hP : PrefixFree P) (h : ∀ x y t, P x → Q y → x <+: t → ¬ y <+: t) :
    CatchesUp (Maybe P) Q := by
  intro t x x₀ y h₀ hx hy ht
  have hxt : x <+: t := (List.prefix_append x y).trans ht
  have heq : x = x₀ := by
    cases hx with
    | absent =>
      cases h₀.holds with
      | absent => rfl
      | present hx₀ => exact absurd ht (h x₀ y t hx₀ hy h₀.isPrefix)
    | present hx =>
      cases h₀.holds with
      | absent =>
        have hlen := h₀.greatest x (.present hx) hxt
        exact List.length_eq_zero_iff.1 (Nat.le_zero.1 hlen)
      | present hx₀ => exact hP.eq_of_prefix hx hxt hx₀ h₀.isPrefix
  subst heq
  exact ⟨y, hy, ht, Nat.le_refl _⟩

/-- Where `Q` may be left out, only the longer combinations matter. -/
theorem catchesUp_of_nil (hQ : Q [])
    (h : ∀ {z r x y}, Longest P (z ++ r) z → P x → Q y → x ++ y = z ++ r → Q r) : CatchesUp P Q := by
  intro t x x₀ y h₀ hx hy ht
  rcases Nat.le_total (x ++ y).length x₀.length with hle | hle
  · exact ⟨[], hQ, by simpa using h₀.isPrefix, by simpa using hle⟩
  · -- what the combination has beyond the longest text
    obtain ⟨r, hr⟩ := List.prefix_of_prefix_length_le h₀.isPrefix ht hle
    rw [← hr] at ht
    have hlongest : Longest P (x₀ ++ r) x₀ := h₀.of_prefix (List.prefix_append ..) ht
    exact ⟨r, h hlongest hx hy hr.symm, ht, by rw [hr]⟩

namespace Pattern

variable {p q : Pattern}

/-- The way that the pattern prefers on the text leaves as little as any other. -/
def LongestFirstOn (p : Pattern) (t : Text) : Prop :=
  ∀ r, (p.ends t).head? = some r → ∀ r' ∈ p.ends t, r.length ≤ r'.length

/-- The way that the pattern prefers is a longest one on every text. -/
def LongestFirst (p : Pattern) : Prop :=
  ∀ t, p.LongestFirstOn t

theorem LongestFirstOn.longest {r : Text} (hp : p.LongestFirstOn (x ++ r)) (h : (p.ends (x ++ r)).head? = some r) :
    Longest p.Matches (x ++ r) x := by
  obtain ⟨x', hx', heq⟩ := (mem_ends p _ _).1 (List.mem_of_mem_head? h)
  obtain rfl := List.append_cancel_right heq
  refine ⟨hx', List.prefix_append .., ?_⟩
  intro y hy h
  obtain ⟨s, hs⟩ := h
  have := hp r h s ((mem_ends p _ _).2 ⟨y, hy, hs.symm⟩)
  have := congrArg List.length hs
  simp only [List.length_append] at this
  omega

theorem longestFirst_of_prefixFree (hp : PrefixFree p.Matches) : p.LongestFirst := by
  intro t r hr r' hr'
  obtain ⟨x, hx, rfl⟩ := (mem_ends p _ _).1 (List.mem_of_mem_head? hr)
  obtain ⟨y, hy, heq⟩ := (mem_ends p _ _).1 hr'
  obtain rfl := hp.eq_of_prefix hx (List.prefix_append x r) hy ⟨r', heq.symm⟩
  rw [List.append_cancel_left heq]

theorem LongestFirstOn.alt (hp : p.LongestFirstOn t) (hq : q.LongestFirstOn t)
    (h : ∀ x y, Longest p.Matches t x → q.Matches y → y <+: t → y.length ≤ x.length) :
    (Pattern.alt p q).LongestFirstOn t := by
  intro r hr r' hr'
  simp only [ends] at hr hr'
  cases hends : p.ends t with
  | nil =>
    rw [hends] at hr hr'
    exact hq r hr r' hr'
  | cons r₀ rs =>
    have hr₀ : (p.ends t).head? = some r₀ := by rw [hends]; rfl
    obtain rfl : r₀ = r := by simpa [hends] using hr
    rcases List.mem_append.1 hr' with hr' | hr'
    · exact hp r₀ hr₀ r' hr'
    · obtain ⟨x, -, rfl⟩ := (mem_ends p _ _).1 (List.mem_of_mem_head? hr₀)
      obtain ⟨y, hy, heq⟩ := (mem_ends q _ _).1 hr'
      have := h x y (hp.longest hr₀) hy ⟨r', heq.symm⟩
      have := congrArg List.length heq
      simp only [List.length_append] at this
      omega

theorem LongestFirstOn.seq (hp : p.LongestFirstOn t) (hq : ∀ r ∈ p.ends t, q.LongestFirstOn r)
    (h : CatchesUp p.Matches q.Matches) : (Pattern.seq p q).LongestFirstOn t := by
  intro s hs s' hs'
  simp only [ends] at hs hs'
  obtain ⟨r, hr, hs''⟩ := List.mem_flatMap.1 hs'
  obtain ⟨r₀, rs, hends⟩ := List.exists_cons_of_ne_nil (List.ne_nil_of_mem hr)
  have hr₀ : (p.ends t).head? = some r₀ := by rw [hends]; rfl
  -- what is left after the longest match of `p` can be brought down to what `s'` is
  have hshort : ∃ s₀ ∈ q.ends r₀, s₀.length ≤ s'.length := by
    obtain ⟨x₀, -, rfl⟩ := (mem_ends p _ _).1 (List.mem_of_mem_head? hr₀)
    obtain ⟨x, hx, heq⟩ := (mem_ends p _ _).1 hr
    obtain ⟨y, hy, rfl⟩ := (mem_ends q _ _).1 hs''
    have hxy : x ++ y <+: x₀ ++ r₀ := ⟨s', by rw [heq, List.append_assoc]⟩
    obtain ⟨y', hy', ⟨s₀, hs₀⟩, hlen⟩ := h _ _ _ _ (hp.longest hr₀) hx hy hxy
    rw [List.append_assoc] at hs₀
    refine ⟨s₀, (mem_ends q _ _).2 ⟨y', hy', (List.append_cancel_left hs₀).symm⟩, ?_⟩
    have h₁ := congrArg List.length heq
    have h₂ := congrArg List.length hs₀
    simp only [List.length_append] at h₁ h₂ hlen
    omega
  obtain ⟨s₀, hs₀, hlen⟩ := hshort
  have hs : (q.ends r₀).head? = some s := by
    obtain ⟨s₁, ss, hq₀⟩ := List.exists_cons_of_ne_nil (List.ne_nil_of_mem hs₀)
    simpa [hends, hq₀] using hs
  exact Nat.le_trans (hq r₀ (List.mem_of_mem_head? hr₀) s hs s₀ hs₀) hlen

theorem LongestFirst.alt (hp : p.LongestFirst) (hq : q.LongestFirst)
    (h : ∀ t x y, Longest p.Matches t x → q.Matches y → y <+: t → y.length ≤ x.length) :
    (Pattern.alt p q).LongestFirst := by
  intro t
  exact (hp t).alt (hq t) (h t)

theorem LongestFirst.seq (hp : p.LongestFirst) (hq : q.LongestFirst) (h : CatchesUp p.Matches q.Matches) :
    (Pattern.seq p q).LongestFirst := by
  intro t
  exact (hp t).seq (fun r _ => hq r) h

theorem longestFirst_empty : Pattern.empty.LongestFirst := by
  apply longestFirst_of_prefixFree
  intro x y _ hxy
  exact (List.append_eq_nil_iff.1 hxy).2

theorem LongestFirst.optional (hp : p.LongestFirst) : (optional p).LongestFirst := by
  refine hp.alt longestFirst_empty fun t x y _ hy _ => ?_
  rw [show y = [] from hy]
  exact Nat.zero_le _

/-- An optional beginning is taken if it can be, and then the whole must be longer than without it. -/
theorem LongestFirst.seq_optional (hpq : (Pattern.seq p q).LongestFirst) (hq : q.LongestFirst)
    (h : ∀ t x y, Longest (Pattern.seq p q).Matches t x → q.Matches y → y <+: t → y.length ≤ x.length) :
    (Pattern.seq (Pattern.optional p) q).LongestFirst := by
  have hends : ∀ t, (Pattern.seq (Pattern.optional p) q).ends t = (Pattern.alt (.seq p q) q).ends t := by
    intro t
    simp [Pattern.optional, ends]
  intro t
  unfold LongestFirstOn
  rw [hends]
  exact hpq.alt hq h t

/-! ### Repetitions -/

theorem length_lt_of_mem_ends (hp : ¬ p.Matches []) {r : Text} (hr : r ∈ p.ends t) : r.length < t.length := by
  obtain ⟨x, hx, rfl⟩ := (mem_ends p _ _).1 hr
  have hne : x ≠ [] := by
    rintro rfl
    exact hp hx
  have hpos := List.length_pos_iff.2 hne
  simp only [List.length_append]
  omega

theorem moreRounds_eq (hp : ¬ p.Matches []) (greedy : Bool) (least : Nat) (most : Option Nat) (t : Text) :
    moreRounds List.length p.ends greedy least most t = (p.ends t).flatMap
      (repeated List.length p.ends greedy (required List.length p.ends least t - 1) (most.map (· - 1))) := by
  have hpast : (p.ends t).filter (isPast List.length t) = p.ends t := by
    rw [List.filter_eq_self]
    intro r hr
    simpa [isPast] using length_lt_of_mem_ends hp hr
  rw [moreRounds, hpast]

theorem required_eq_least (hp : ¬ p.Matches []) (least : Nat) (t : Text) :
    required List.length p.ends least t = least := by
  have : ¬ (p.ends t).any (!isPast List.length t ·) := by
    simp only [List.any_eq_true, isPast, Bool.not_eq_true', decide_eq_false_iff_not, not_exists, not_and, not_not]
    exact fun r hr => length_lt_of_mem_ends hp hr
  rw [required, if_neg this]

/-- A greedy repetition unfolded by one round. -/
private theorem ends_rounds (hp : ¬ p.Matches []) (least : Nat) (most : Option Nat) (t : Text) :
    (Pattern.rounds true least most p).ends t =
      if most = some 0 then [t]
      else if least > 0 then (Pattern.seq p (.rounds true (least - 1) (most.map (· - 1)) p)).ends t
      else (Pattern.alt (.seq p (.rounds true (least - 1) (most.map (· - 1)) p)) .empty).ends t := by
  simp only [ends]
  rw [repeated_eq, moreRounds_eq hp, required_eq_least hp, if_pos rfl]

/-- A round is taken wherever one is possible, so it is enough that the rounds after it catch up. -/
private theorem longestFirst_rounds (hp : p.LongestFirst) (hne : ¬ p.Matches []) {least : Nat} {most : Option Nat}
    (h : ∀ l ≤ least, ∀ m, (most = none → m = none) → CatchesUp p.Matches (Pattern.rounds true l m p).Matches) :
    (Pattern.rounds true least most p).LongestFirst := by
  intro t
  induction hn : t.length using Nat.strongRecOn generalizing t least most with
  | ind n ih =>
    have hmore : (Pattern.seq p (.rounds true (least - 1) (most.map (· - 1)) p)).LongestFirstOn t := by
      refine (hp t).seq (fun r hr => ?_) (h _ (Nat.sub_le ..) _ (by rintro rfl; rfl))
      -- the rounds that are left are fewer, and so is the text
      have hlt : r.length < n := hn ▸ length_lt_of_mem_ends hne hr
      refine ih _ hlt (fun l hl m hm => ?_) r rfl
      have hl : l ≤ least := by omega
      refine h l hl m fun hmost => hm ?_
      rw [hmost]
      rfl
    unfold LongestFirstOn
    rw [ends_rounds hne]
    split
    · exact longestFirst_empty t
    · split
      · exact hmore
      · refine hmore.alt (longestFirst_empty t) fun x y _ hy _ => ?_
        rw [show y = [] from hy]
        exact Nat.zero_le _

theorem LongestFirst.star (hp : p.LongestFirst) (hne : ¬ p.Matches [])
    (h : CatchesUp p.Matches (Pattern.star p).Matches) : (Pattern.star p).LongestFirst := by
  refine longestFirst_rounds hp hne fun l hl m hm => ?_
  rw [Nat.le_zero.1 hl, hm rfl]
  exact h

theorem LongestFirst.plus (hp : p.LongestFirst) (hne : ¬ p.Matches [])
    (h : CatchesUp p.Matches (Pattern.star p).Matches) : (Pattern.plus p).LongestFirst := by
  intro t
  unfold LongestFirstOn
  rw [Pattern.plus, ends_rounds hne]
  exact hp.seq (hp.star hne h) h t

/-- Every round takes a text that no other one goes on after. -/
theorem longestFirst_rounds_of_prefixFree (hp : PrefixFree p.Matches) (hne : ¬ p.Matches []) (least : Nat)
    (most : Option Nat) : (Pattern.rounds true least most p).LongestFirst := by
  apply longestFirst_rounds (longestFirst_of_prefixFree hp) hne
  intro l _ m _
  exact hp.catchesUp _

end Pattern

end SelectorSyntax
