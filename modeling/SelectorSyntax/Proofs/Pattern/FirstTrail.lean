import SelectorSyntax.Proofs.Pattern.Preference
import SelectorSyntax.Proofs.Pattern.Trail

/-!
# The trail of the first match

Which trail a match leaves is decided by preference.  `Pattern.Leads` says of patterns in a row what the first way
through them does on a text, and `Pattern.Fails` that there is no way at all.  Both are put together from the first
pattern and the patterns after it:

* a pattern that prefers its longest texts (`TakesLongest`) takes the longest one, if the patterns after it go through
  (`Leads.longest`), and a named part notes it (`Leads.part`);
* an optional pattern is taken where the patterns after it go through (`Leads.present`), and left out where they fail
  after all that it could take (`Leads.absent`);
* a lazy repetition stops where the patterns after it go through (`Leads.stop`), and takes one more round where they
  fail (`Leads.round`).

`whole?_of_leads` hands the trail to the search.
-/

namespace SelectorSyntax.Pattern

variable {p : Pattern} {P : Text → Prop} {ps qs : List Pattern} {t x r : Text} {es : List Event}

/-- Whatever came before, the first way through the patterns in a row on the text `t` goes through the events and
leaves `r`. -/
def Leads (ps : List Pattern) (t : Text) (es : List Event) (r : Text) : Prop :=
  ∀ trail, (waysOfAll ps ⟨trail, t⟩).head? = some ⟨es.reverse ++ trail, r⟩

/-- Whatever came before, there is no way through the patterns in a row on the text `t`. -/
def Fails (ps : List Pattern) (t : Text) : Prop :=
  ∀ trail, waysOfAll ps ⟨trail, t⟩ = []

/-! ### Rows of patterns -/

theorem waysOfAll_seq (p q : Pattern) (ps : List Pattern) : waysOfAll (.seq p q :: ps) = waysOfAll (p :: q :: ps) := by
  funext f
  simp only [waysOfAll, ways, List.flatMap_assoc]

theorem waysOfAll_concat (ps qs : List Pattern) : waysOfAll (concat ps :: qs) = waysOfAll (ps ++ qs) := by
  induction ps with
  | nil =>
    funext f
    simp [concat, waysOfAll, ways]
  | cons p ps ih =>
    cases ps with
    | nil => rfl
    | cons q ps =>
      rw [concat, waysOfAll_seq]
      · funext f
        simp only [List.cons_append, waysOfAll] at ih ⊢
        rw [ih]
      · simp

theorem Leads.concat (h : Leads (ps ++ qs) t es r) : Leads (concat ps :: qs) t es r := by
  unfold Leads
  rw [waysOfAll_concat]
  exact h

theorem Fails.concat (h : Fails (ps ++ qs) t) : Fails (Pattern.concat ps :: qs) t := by
  unfold Fails
  rw [waysOfAll_concat]
  exact h

/-- Wherever the first pattern ends, the patterns after it fail. -/
theorem Fails.cons (hp : p.isUnconditional) (h : ∀ x r, p.Matches x → t = x ++ r → Fails ps r) : Fails (p :: ps) t := by
  intro trail
  rw [waysOfAll, List.flatMap_eq_nil_iff]
  intro g hg
  have hend : g.rest ∈ p.ends t := by
    rw [← map_rest_ways hp ⟨trail, t⟩]
    exact List.mem_map_of_mem hg
  obtain ⟨x, hx, heq⟩ := (mem_ends p t g.rest).1 hend
  exact h x g.rest hx heq g.trail

/-- The first pattern does not match any beginning of the text. -/
theorem Fails.head (hp : p.isUnconditional) (h : ∀ x, p.Matches x → ¬ x <+: t) : Fails (p :: ps) t := by
  refine .cons hp ?_
  intro x r hx heq
  exact absurd ⟨r, heq.symm⟩ (h x hx)

theorem Leads.mark {m : Mark} (h : Leads ps t es r) : Leads (.mark m :: ps) t (.note m :: es) r := by
  intro trail
  have hrest := h (.note m :: trail)
  simpa [waysOfAll, ways] using hrest

theorem Fails.mark {m : Mark} (h : Fails ps t) : Fails (.mark m :: ps) t := by
  intro trail
  have hrest := h (.note m :: trail)
  simpa [waysOfAll, ways] using hrest

/-! ### Longest texts -/

/-- The pattern has neither marks nor conditions, stands for the texts with the property `P`, and prefers the longest
of them. -/
structure TakesLongest (p : Pattern) (P : Text → Prop) : Prop where
  matches_eq : p.Matches = P
  marks_eq : p.marks = []
  isUnconditional : p.isUnconditional
  longestFirst : p.LongestFirst

theorem TakesLongest.of_prefixFree (hP : p.Matches = P) (hmarks : p.marks = []) (hp : p.isUnconditional)
    (hfree : PrefixFree P) : p.TakesLongest P := by
  refine ⟨hP, hmarks, hp, longestFirst_of_prefixFree ?_⟩
  rw [hP]
  exact hfree

/-- The first way through such a pattern ends after the longest text. -/
theorem TakesLongest.head?_ways (hp : p.TakesLongest P) (hx : Longest P (x ++ r) x) (trail : List Event) :
    (p.ways ⟨trail, x ++ r⟩).head? = some ⟨(Event.reads x).reverse ++ trail, r⟩ := by
  have hrest := map_rest_ways hp.isUnconditional ⟨trail, x ++ r⟩
  have hmem : r ∈ p.ends (x ++ r) := (mem_ends p _ _).2 ⟨x, hp.matches_eq ▸ hx.holds, rfl⟩
  cases hways : p.ways ⟨trail, x ++ r⟩ with
  | nil =>
    rw [hways] at hrest
    rw [← hrest] at hmem
    cases hmem
  | cons g gs =>
    have hg : g ∈ p.ways ⟨trail, x ++ r⟩ := by simp [hways]
    obtain ⟨es, hes⟩ := exists_takes_of_mem_ways hg
    obtain ⟨y, -, rfl⟩ := traces_of_unmarked rfl hp.marks_eq hp.isUnconditional ⟨_, g, hg, hes⟩
    have hhead : (p.ends (x ++ r)).head? = some g.rest := by
      rw [← hrest, hways]
      rfl
    have heq : x ++ r = y ++ g.rest := by simpa using hes.1
    rw [heq] at hhead hx
    have hy := (hp.longestFirst _).longest hhead
    rw [hp.matches_eq] at hy
    obtain rfl := hy.unique hx
    rw [List.head?_cons, hes.eq, List.append_cancel_left heq]

theorem Leads.longest (hp : p.TakesLongest P) (hx : Longest P (x ++ t) x) (h : Leads ps t es r) :
    Leads (p :: ps) (x ++ t) (Event.reads x ++ es) r := by
  intro trail
  have hhead := hp.head?_ways hx trail
  rw [waysOfAll]
  cases hways : p.ways ⟨trail, x ++ t⟩ with
  | nil => simp [hways] at hhead
  | cons g gs =>
    obtain rfl : g = ⟨(Event.reads x).reverse ++ trail, t⟩ := by simpa [hways] using hhead
    rw [List.flatMap_cons, List.head?_append, h]
    simp

/-- What a part is made of stands between its marks. -/
theorem Leads.marked (name : String) (h : Leads (p :: .mark (.closes name) :: ps) t es r) :
    Leads (Pattern.part name p :: ps) t (.note (.opens name) :: es) r :=
  .concat (.mark h)

theorem Leads.part (name : String) (hp : p.TakesLongest P) (hx : Longest P (x ++ t) x) (h : Leads ps t es r) :
    Leads (Pattern.part name p :: ps) (x ++ t) (Event.named name (some x) ++ es) r := by
  have hnamed : Event.named name (some x) ++ es =
      .note (.opens name) :: (Event.reads x ++ .note (.closes name) :: es) := by
    simp [Event.named]
  rw [hnamed]
  exact .marked name (.longest hp hx (.mark h))

/-! ### Optional patterns -/

theorem waysOfAll_optional (p : Pattern) (ps : List Pattern) (f : Found) :
    waysOfAll (optional p :: ps) f = waysOfAll (p :: ps) f ++ waysOfAll ps f := by
  simp [waysOfAll, optional, ways]

theorem Leads.present (h : Leads (p :: ps) t es r) : Leads (optional p :: ps) t es r := by
  intro trail
  rw [waysOfAll_optional, List.head?_append, h trail]
  rfl

theorem Leads.absent (hp : Fails (p :: ps) t) (h : Leads ps t es r) : Leads (optional p :: ps) t es r := by
  intro trail
  rw [waysOfAll_optional, hp trail, List.nil_append]
  exact h trail

/-! ### Lazy repetitions -/

/-- The ways of a lazy repetition: to stop, and then those with one more round. -/
theorem ways_lazy (p : Pattern) (f : Found) :
    (rounds false 0 none p).ways f = f :: moreRounds Found.left p.ways false 0 none f := by
  rw [ways, repeated_eq]
  simp [required]

theorem Leads.stop (h : Leads ps t es r) : Leads (.rounds false 0 none p :: ps) t es r := by
  intro trail
  rw [waysOfAll, ways_lazy, List.flatMap_cons, List.head?_append, h trail]
  rfl

/-- One more round takes the longest text that the pattern stands for. -/
theorem Leads.round (hp : p.TakesLongest P) (hx : Longest P (x ++ t) x) (hne : x ≠ []) (hstop : Fails ps (x ++ t))
    (h : Leads (.rounds false 0 none p :: ps) t es r) :
    Leads (.rounds false 0 none p :: ps) (x ++ t) (Event.reads x ++ es) r := by
  intro trail
  have hhead := hp.head?_ways hx trail
  have hrest := h ((Event.reads x).reverse ++ trail)
  rw [waysOfAll, ways_lazy, List.flatMap_cons, hstop trail, List.nil_append, moreRounds]
  cases hways : p.ways ⟨trail, x ++ t⟩ with
  | nil => simp [hways] at hhead
  | cons g gs =>
    obtain rfl : g = ⟨(Event.reads x).reverse ++ trail, t⟩ := by simpa [hways] using hhead
    have hpast : isPast Found.left ⟨trail, x ++ t⟩ ⟨(Event.reads x).reverse ++ trail, t⟩ = true := by
      simpa [isPast, Found.left] using List.length_pos_iff.2 hne
    have hleast : required Found.left p.ways 0 ⟨trail, x ++ t⟩ - 1 = 0 := by simp [required]
    rw [List.filter_cons_of_pos hpast, List.flatMap_cons, List.flatMap_append, List.head?_append, hleast]
    rw [waysOfAll, ways] at hrest
    rw [Option.map_none, hrest]
    simp

/-! ### The search -/

theorem leads_atEnd : Leads [atEnd] [] [] [] := by
  intro trail
  simp [waysOfAll, ways, atEnd, Found.place, Place.satisfies]

theorem fails_atEnd (h : t ≠ []) : Fails [atEnd] t := by
  intro trail
  obtain ⟨c, t, rfl⟩ := List.exists_cons_of_ne_nil h
  simp [waysOfAll, ways, atEnd, Found.place, Place.satisfies]

theorem whole?_of_leads (h : Leads [p, atEnd] t es []) : p.whole? t = some es := by
  have hways : ((Pattern.seq p atEnd).ways ⟨[], t⟩).head? = some ⟨es.reverse, []⟩ := by
    have hhead := h []
    rw [← waysOfAll_seq] at hhead
    simpa [waysOfAll] using hhead
  rw [whole?, lead?_eq_head?_ways, hways]
  simp

end SelectorSyntax.Pattern
