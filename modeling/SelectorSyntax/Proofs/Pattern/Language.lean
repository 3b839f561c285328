import SelectorSyntax.Proofs.Pattern.Search

/-!
# The texts of a pattern

`Pattern.Matches` says which texts a pattern stands for, without regard to preference: texts one after the other, one
of two, and a number of texts in a row.  `Pattern.ends` keeps the preference and forgets the trails: the texts that
the ways through a pattern leave, in order.

Conditions look at the place in the text, so both are meant for patterns without conditions (`isUnconditional`), which
the patterns of the grammar are.

* `mem_ends`: a text is left exactly if the pattern stands for what comes before it.
* `accepts_iff_matches`: the search for a whole match decides `Matches`.
* `leadLength?_eq`: the search at the beginning of a text takes all but the first of the `ends`.
-/

namespace SelectorSyntax

/-- `n` texts in a row, each with the property `P`. -/
inductive Times (P : Text → Prop) : Nat → Text → Prop
  | zero : Times P 0 []
  | succ {n : Nat} {x y : Text} : P x → Times P n y → Times P (n + 1) (x ++ y)

/-- Whether a number of rounds is allowed.  The greatest number outweighs the least. -/
def AllowedRounds (least : Nat) (most : Option Nat) (n : Nat) : Prop :=
  (∀ k ∈ most, n ≤ k) ∧ (least ≤ n ∨ most = some n)

namespace Pattern

/-- The texts that a pattern without conditions stands for. -/
def Matches : Pattern → Text → Prop
  | .empty, t => t = []
  | .chars set, t => ∃ c, set.contains c ∧ t = [c]
  | .seq p q, t => ∃ x y, p.Matches x ∧ q.Matches y ∧ t = x ++ y
  | .alt p q, t => p.Matches t ∨ q.Matches t
  | .rounds _ least most p, t => ∃ n, AllowedRounds least most n ∧ Times p.Matches n t
  | .mark _, t => t = []
  | .requires _, _ => False

/-- The texts that the ways through a pattern without conditions leave, in order of preference. -/
def ends : Pattern → Text → List Text
  | .empty, t => [t]
  | .chars set, t =>
    match t with
    | c :: t => if set.contains c then [t] else []
    | [] => []
  | .seq p q, t => (p.ends t).flatMap q.ends
  | .alt p q, t => p.ends t ++ q.ends t
  | .rounds greedy least most p, t => repeated List.length p.ends greedy least most t
  | .mark _, t => [t]
  | .requires _, _ => []

/-- Whether a pattern has no conditions. -/
def isUnconditional : Pattern → Bool
  | .seq p q | .alt p q => p.isUnconditional && q.isUnconditional
  | .rounds _ _ _ p => p.isUnconditional
  | .requires _ => false
  | .empty | .chars _ | .mark _ => true

/-! ### What is left -/

/-- A repetition seen through a view of its states that keeps their sizes. -/
theorem repeated_map {σ τ : Type} {size : σ → Nat} {size' : τ → Nat} {view : σ → τ}
    (hsize : ∀ a, size' (view a) = size a) {through : σ → List σ} {through' : τ → List τ}
    (hthrough : ∀ a, (through a).map view = through' (view a)) (greedy : Bool) (least : Nat) (most : Option Nat)
    (a : σ) :
    (repeated size through greedy least most a).map view = repeated size' through' greedy least most (view a) := by
  induction hn : size a using Nat.strongRecOn generalizing a least most with
  | ind n ih =>
    have hpast : ∀ b, isPast size' (view a) (view b) = isPast size a b := by
      intro b
      unfold isPast
      rw [hsize, hsize]
    have hreq : required size' through' least (view a) = required size through least a := by
      unfold required
      rw [← hthrough, List.any_map]
      simp only [Function.comp_def, hpast]
    have hmore : (moreRounds size through greedy least most a).map view =
        moreRounds size' through' greedy least most (view a) := by
      unfold moreRounds
      rw [hreq, ← hthrough, List.filter_map, List.flatMap_map, List.map_flatMap]
      simp only [Function.comp_def, hpast]
      refine List.flatMap_congr fun b hb => ih _ ?_ _ _ b rfl
      simpa [isPast, hn] using (List.mem_filter.1 hb).2
    rw [repeated_eq, repeated_eq, hreq, ← hmore]
    split
    · rfl
    · split
      · rfl
      · split <;> simp

theorem map_rest_ways {p : Pattern} (hp : p.isUnconditional) (f : Found) :
    (p.ways f).map Found.rest = p.ends f.rest := by
  induction p generalizing f with
  | empty | mark => rfl
  | chars set =>
    obtain ⟨trail, rest⟩ := f
    cases rest with
    | nil => rfl
    | cons c t =>
      simp only [ways, ends]
      split <;> rfl
  | seq p q ihp ihq =>
    have hp := Bool.and_eq_true_iff.1 hp
    rw [ways, ends, ← ihp hp.1, List.map_flatMap, List.flatMap_map]
    exact List.flatMap_congr fun g _ => ihq hp.2 g
  | alt p q ihp ihq =>
    have hp := Bool.and_eq_true_iff.1 hp
    rw [ways, ends, List.map_append, ihp hp.1, ihq hp.2]
  | rounds greedy least most p ih => exact repeated_map (fun _ => rfl) (ih hp) greedy least most f
  | requires condition => cases hp

/-! ### Rounds -/

/-- Rounds of no text can be added. -/
private theorem times_pad {P : Text → Prop} (hP : P []) {n : Nat} {t : Text} (h : Times P n t) (k : Nat) :
    Times P (k + n) t := by
  induction k with
  | zero => rwa [Nat.zero_add]
  | succ k ih =>
    rw [Nat.succ_add]
    exact .succ hP ih

/-- What `AllowedRounds` comes to where a round of no text counts for as many rounds as are needed. -/
private theorem exists_allowedRounds {P : Text → Prop} {least n : Nat} {most : Option Nat} {t : Text}
    (h : Times P n t) (hmost : ∀ k ∈ most, n ≤ k) (hleast : least ≤ n ∨ most = some n ∨ P []) :
    ∃ n, AllowedRounds least most n ∧ Times P n t := by
  rcases hleast with hleast | hleast | hP
  · exact ⟨n, ⟨hmost, .inl hleast⟩, h⟩
  · exact ⟨n, ⟨hmost, .inr hleast⟩, h⟩
  · by_cases hleast : least ≤ n
    · exact ⟨n, ⟨hmost, .inl hleast⟩, h⟩
    · cases most with
      | none =>
        refine ⟨least, ⟨by simp, .inl (Nat.le_refl _)⟩, ?_⟩
        simpa [Nat.sub_add_cancel (Nat.le_of_not_le hleast)] using times_pad hP h (least - n)
      | some m =>
        have hm : n ≤ m := hmost m rfl
        refine ⟨m, ⟨by simp, .inr rfl⟩, ?_⟩
        simpa [Nat.sub_add_cancel hm] using times_pad hP h (m - n)

section

variable {P : Text → Prop} {through : Text → List Text} (hthrough : ∀ t r, r ∈ through t ↔ ∃ x, P x ∧ t = x ++ r)

include hthrough

private theorem required_eq (least : Nat) (t : Text) :
    (P [] → required List.length through least t = 0) ∧
      (¬ P [] → required List.length through least t = least) := by
  have hany : (through t).any (!isPast List.length t ·) ↔ P [] := by
    simp only [List.any_eq_true, isPast, Bool.not_eq_true', decide_eq_false_iff_not, Nat.not_lt]
    constructor
    · intro h
      obtain ⟨r, hr, hlen⟩ := h
      obtain ⟨x, hx, rfl⟩ := (hthrough t r).1 hr
      rw [List.length_append] at hlen
      have : x = [] := List.length_eq_zero_iff.1 (by omega)
      rwa [this] at hx
    · intro hP
      exact ⟨t, (hthrough t t).2 ⟨[], hP, rfl⟩, Nat.le_refl _⟩
  unfold required
  by_cases hP : P [] <;> simp [hany, hP]

private theorem exists_times_of_mem_repeated {greedy : Bool} {least : Nat} {most : Option Nat} {t r : Text}
    (hr : r ∈ repeated List.length through greedy least most t) :
    ∃ n x, Times P n x ∧ (∀ k ∈ most, n ≤ k) ∧ (least ≤ n ∨ most = some n ∨ P []) ∧ t = x ++ r := by
  induction hn : t.length using Nat.strongRecOn generalizing t least most with
  | ind n ih =>
    obtain ⟨hempty, hfull⟩ := required_eq hthrough least t
    have hmore (hpos : most ≠ some 0) (hm : r ∈ moreRounds List.length through greedy least most t) :
        ∃ n x, Times P n x ∧ (∀ k ∈ most, n ≤ k) ∧ (least ≤ n ∨ most = some n ∨ P []) ∧ t = x ++ r := by
      obtain ⟨s, hs, hr⟩ := List.mem_flatMap.1 hm
      obtain ⟨hs, hpast⟩ := List.mem_filter.1 hs
      obtain ⟨x, hx, rfl⟩ := (hthrough t s).1 hs
      obtain ⟨m, y, hy, hmost, hleast, rfl⟩ := ih _ (by simpa [isPast, ← hn] using hpast) hr rfl
      -- one more round than after the first one; both bounds were lowered by it
      refine ⟨m + 1, x ++ y, .succ hx hy, ?_, ?_, by simp⟩
      · rintro k rfl
        have hk : k ≠ 0 := fun h => hpos (by rw [h])
        have := hmost (k - 1) rfl
        omega
      · by_cases hP : P []
        · exact .inr (.inr hP)
        · rw [hfull hP] at hleast
          rcases hleast with h | h | h
          · exact .inl (by omega)
          · obtain ⟨k, rfl, hk⟩ := Option.map_eq_some_iff.1 h
            have : k ≠ 0 := fun h => hpos (by rw [h])
            exact .inr (.inl (by congr 1; omega))
          · exact absurd h hP
    rw [repeated_eq] at hr
    split at hr
    · rename_i hmost
      obtain rfl := List.mem_singleton.1 hr
      exact ⟨0, [], .zero, by simp, .inr (.inl hmost), rfl⟩
    · rename_i hpos
      split at hr
      · exact hmore hpos hr
      · rename_i hreq
        have hr : r ∈ moreRounds List.length through greedy least most t ∨ r = t := by
          split at hr <;> simp at hr <;> tauto
        rcases hr with hr | rfl
        · exact hmore hpos hr
        · -- the repetition stops here, which it may do only if no round is required any more
          refine ⟨0, [], .zero, by simp, ?_, rfl⟩
          by_cases hP : P []
          · exact .inr (.inr hP)
          · rw [hfull hP] at hreq
            exact .inl (by omega)

private theorem mem_repeated_of_times (greedy : Bool) {least n : Nat} {most : Option Nat} {x r : Text}
    (hx : Times P n x) (hmost : ∀ k ∈ most, n ≤ k) (hleast : least ≤ n ∨ most = some n ∨ P []) :
    r ∈ repeated List.length through greedy least most (x ++ r) := by
  induction hx generalizing least most with
  | zero =>
    obtain ⟨hempty, hfull⟩ := required_eq hthrough least ([] ++ r)
    rw [repeated_eq]
    split
    · simp
    · rename_i hpos
      have hreq : required List.length through least ([] ++ r) = 0 := by
        by_cases hP : P []
        · exact hempty hP
        · rw [hfull hP]
          rcases hleast with h | h | h
          · omega
          · exact absurd h hpos
          · exact absurd h hP
      rw [hreq]
      cases greedy <;> simp
  | @succ n x y hx hy ih =>
    by_cases hx0 : x = []
    · -- a round of no text is not taken
      subst hx0
      exact ih (fun k hk => Nat.le_of_succ_le (hmost k hk)) (.inr (.inr hx))
    · have hpos : most ≠ some 0 := by
        rintro rfl
        exact absurd (hmost 0 rfl) (by omega)
      have hmore : r ∈ moreRounds List.length through greedy least most (x ++ y ++ r) := by
        refine List.mem_flatMap.2 ⟨y ++ r, List.mem_filter.2 ⟨?_, ?_⟩, ih ?_ ?_⟩
        · exact (hthrough _ _).2 ⟨x, hx, by simp⟩
        · have := List.length_pos_iff.2 hx0
          simp [isPast]
          omega
        · intro k hk
          obtain ⟨m, hm, rfl⟩ := Option.map_eq_some_iff.1 hk
          have := hmost m hm
          omega
        · obtain ⟨hempty, hfull⟩ := required_eq hthrough least (x ++ y ++ r)
          by_cases hP : P []
          · exact .inr (.inr hP)
          · rw [hfull hP]
            rcases hleast with h | h | h
            · exact .inl (by omega)
            · exact .inr (.inl (by simp [h]))
            · exact absurd h hP
      rw [repeated_eq, if_neg hpos]
      split
      · exact hmore
      · split
        · exact List.mem_append_left _ hmore
        · exact List.mem_cons_of_mem _ hmore

private theorem mem_repeated (greedy : Bool) (least : Nat) (most : Option Nat) (t r : Text) :
    r ∈ repeated List.length through greedy least most t ↔
      ∃ x, (∃ n, AllowedRounds least most n ∧ Times P n x) ∧ t = x ++ r := by
  constructor
  · intro hr
    obtain ⟨n, x, hx, hmost, hleast, rfl⟩ := exists_times_of_mem_repeated hthrough hr
    exact ⟨x, exists_allowedRounds hx hmost hleast, rfl⟩
  · intro h
    obtain ⟨x, ⟨n, hn, hx⟩, rfl⟩ := h
    exact mem_repeated_of_times hthrough greedy hx hn.1 (hn.2.imp_right .inl)

end

/-- The ways through a pattern leave what comes after a text that it stands for. -/
theorem mem_ends (p : Pattern) (t r : Text) : r ∈ p.ends t ↔ ∃ x, p.Matches x ∧ t = x ++ r := by
  induction p generalizing t r with
  | empty | mark => simp [ends, Matches, eq_comm]
  | chars set =>
    constructor
    · intro hr
      cases t with
      | nil => cases hr
      | cons c t =>
        simp only [ends] at hr
        split at hr
        · rename_i hc
          rw [List.mem_singleton.1 hr]
          exact ⟨[c], ⟨c, hc, rfl⟩, rfl⟩
        · cases hr
    · intro h
      obtain ⟨_, ⟨c, hc, rfl⟩, rfl⟩ := h
      simp [ends, hc]
  | seq p q ihp ihq =>
    simp only [ends, List.mem_flatMap, ihp, ihq, Matches]
    constructor
    · intro h
      obtain ⟨_, ⟨x, hx, rfl⟩, y, hy, rfl⟩ := h
      exact ⟨x ++ y, ⟨x, y, hx, hy, rfl⟩, by simp⟩
    · intro h
      obtain ⟨_, ⟨x, y, hx, hy, rfl⟩, rfl⟩ := h
      exact ⟨y ++ r, ⟨x, hx, by simp⟩, y, hy, rfl⟩
  | alt p q ihp ihq =>
    simp only [ends, List.mem_append, ihp, ihq, Matches, or_and_right, exists_or]
  | rounds greedy least most p ih => exact mem_repeated ih greedy least most t r
  | requires condition => simp [ends, Matches]

/-! ### The search -/

variable {p : Pattern}

theorem leadLength?_eq (hp : p.isUnconditional) (t : Text) :
    p.leadLength? t = (p.ends t).head?.map fun r => t.length - r.length := by
  rw [leadLength?, lead?_eq_head?_ways, ← map_rest_ways hp ⟨[], t⟩, List.head?_map, Option.map_map, Option.map_map]
  refine Option.map_congr fun g hg => ?_
  -- what was read and what is left make up the text
  obtain ⟨x, hrest, hread⟩ := exists_read_of_mem_ways p (List.mem_of_mem_head? hg)
  simp only [Function.comp_apply, hread]
  have := congrArg List.length hrest
  simp only [List.length_append] at this
  simp only [List.reverse_nil, Event.readText, List.nil_append]
  omega

theorem accepts_iff_matches (hp : p.isUnconditional) (t : Text) : p.accepts t = true ↔ p.Matches t := by
  have hways : p.accepts t = true ↔ [] ∈ p.ends t := by
    rw [accepts, whole?, lead?_eq_head?_ways, ← map_rest_ways hp ⟨[], t⟩]
    simp [ways, atEnd, Found.place, Place.satisfies]
  rw [hways, mem_ends]
  simp

end Pattern

end SelectorSyntax
