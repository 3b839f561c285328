import Mathlib.Data.List.Forall2
import SelectorSyntax.Pattern.Search

/-!
# Backtracking

All ways to match a pattern at a place of a text, in order of preference: an earlier alternative before a later one,
and a greedy repetition with one more round before it stops.  This is what a search that goes back to its last
choice would try, one way after the other, and it is how the preference of a pattern is meant.

A way is given by what it has reached: the trail so far, the latest event first, and the text after it.

* Two ways that have the same character before them and the same text after them have the same future
  (`ways_sameSpot`): only their trails differ.
* `repeated_eq` unfolds a repetition by one round.
* What a way has read and what is left make up the text (`exists_read_of_mem_ways`).
-/

namespace SelectorSyntax

namespace Event

/-- The character read last, in a trail whose latest event comes first. -/
def lastRead : List Event → Option Char
  | [] => none
  | .read c :: _ => some c
  | .note _ :: es => lastRead es

@[simp] theorem lastRead_noteAll (marks : List Mark) (trail : List Event) :
    lastRead (Thread.noteAll marks trail) = lastRead trail := by
  induction marks generalizing trail with
  | nil => rfl
  | cons m marks ih => exact ih (.note m :: trail)

end Event

namespace Found

/-- The place that a match has reached. -/
def place (f : Found) : Place :=
  ⟨Event.lastRead f.trail, f.rest.head?⟩

/-- How many characters are left. -/
def left (f : Found) : Nat :=
  f.rest.length

/-- Two matches that stand between the same characters. -/
def SameSpot (f g : Found) : Prop :=
  Event.lastRead f.trail = Event.lastRead g.trail ∧ f.rest = g.rest

theorem SameSpot.place_eq {f g : Found} (h : SameSpot f g) : f.place = g.place := by
  simp only [place, h.1, h.2]

end Found

namespace Pattern

section Rounds

variable {σ : Type} (size : σ → Nat)

/-- Whether something was read on the way from `a` to `b`. -/
def isPast (a b : σ) : Bool :=
  decide (size b < size a)

/-- The rounds that are still required of a repetition whose single round has the ways `through`: none, if a round
could be passed without reading. -/
def required (through : σ → List σ) (least : Nat) (a : σ) : Nat :=
  if (through a).any (!isPast size a ·) then 0 else least

/-- The ways through the rounds of a repetition.  A round that reads nothing is not taken. -/
def repeated (through : σ → List σ) (greedy : Bool) (least : Nat) (most : Option Nat) (a : σ) : List σ :=
  if most = some 0 then [a]
  else
    let more := ((through a).filter (isPast size a)).attach.flatMap fun b =>
      repeated through greedy (required size through least a - 1) (most.map (· - 1)) b.1
    if required size through least a > 0 then more else if greedy then more ++ [a] else a :: more
termination_by size a
decreasing_by simpa [isPast] using (List.mem_filter.1 b.2).2

/-- The ways that go on after one more round. -/
def moreRounds (through : σ → List σ) (greedy : Bool) (least : Nat) (most : Option Nat) (a : σ) : List σ :=
  ((through a).filter (isPast size a)).flatMap
    (repeated size through greedy (required size through least a - 1) (most.map (· - 1)))

theorem repeated_eq (through : σ → List σ) (greedy : Bool) (least : Nat) (most : Option Nat) (a : σ) :
    repeated size through greedy least most a =
      if most = some 0 then [a]
      else if required size through least a > 0 then moreRounds size through greedy least most a
      else if greedy then moreRounds size through greedy least most a ++ [a]
      else a :: moreRounds size through greedy least most a := by
  rw [repeated]
  simp only [moreRounds, List.flatMap_subtype, List.unattach_attach]

end Rounds

/-- The ways through a pattern from where a match has come, in order of preference. -/
def ways : Pattern → Found → List Found
  | .empty, f => [f]
  | .chars set, f =>
    match f.rest with
    | c :: t => if set.contains c then [⟨.read c :: f.trail, t⟩] else []
    | [] => []
  | .seq p q, f => (p.ways f).flatMap q.ways
  | .alt p q, f => p.ways f ++ q.ways f
  | .rounds greedy least most p, f => repeated Found.left p.ways greedy least most f
  | .mark m, f => [⟨.note m :: f.trail, f.rest⟩]
  | .requires condition, f => if f.place.satisfies condition then [f] else []

/-- The ways through patterns in a row. -/
def waysOfAll : List Pattern → Found → List Found
  | [], f => [f]
  | p :: ps, f => (p.ways f).flatMap (waysOfAll ps)

theorem waysOfAll_append (ps qs : List Pattern) (f : Found) :
    waysOfAll (ps ++ qs) f = (waysOfAll ps f).flatMap (waysOfAll qs) := by
  induction ps generalizing f with
  | nil => simp [waysOfAll]
  | cons p ps ih =>
    have h : waysOfAll (ps ++ qs) = fun g => (waysOfAll ps g).flatMap (waysOfAll qs) := funext ih
    simp only [List.cons_append, waysOfAll, List.flatMap_assoc, h]

/-! ### What is read -/

/-- The marks that a way through the pattern may leave. -/
def marks : Pattern → List Mark
  | .seq p q | .alt p q => p.marks ++ q.marks
  | .rounds _ _ _ p => p.marks
  | .mark m => [m]
  | .empty | .chars _ | .requires _ => []

section

variable {R : Found → Found → Prop} (hrefl : ∀ f, R f f) (htrans : ∀ f g h, R f g → R g h → R f h)

include hrefl htrans

private theorem rel_of_mem_repeated {through : Found → List Found} (hstep : ∀ f, ∀ g ∈ through f, R f g)
    (greedy : Bool) (least : Nat) (most : Option Nat) {f g : Found}
    (hg : g ∈ repeated Found.left through greedy least most f) : R f g := by
  -- a round that is taken has read something, so that less is left for the next one
  induction hn : f.rest.length using Nat.strongRecOn generalizing f least most with
  | ind n ih =>
    have hmore : g ∈ moreRounds Found.left through greedy least most f → R f g := by
      intro hm
      obtain ⟨f', hf', hg'⟩ := List.mem_flatMap.1 hm
      obtain ⟨hmem, hpast⟩ := List.mem_filter.1 hf'
      have hless : f'.rest.length < n := by simpa [isPast, Found.left, hn] using hpast
      exact htrans f f' g (hstep f f' hmem) (ih _ hless _ _ hg' rfl)
    rw [repeated_eq] at hg
    split at hg
    · rw [List.mem_singleton.1 hg]
      exact hrefl f
    · split at hg
      · exact hmore hg
      · have hg : g ∈ moreRounds Found.left through greedy least most f ∨ g = f := by
          split at hg <;> simp at hg <;> tauto
        rcases hg with hg | rfl
        · exact hmore hg
        · exact hrefl g

/-- What holds wherever a character is read or one of the pattern's marks is left, and passes on from match to match,
holds along every way. -/
theorem rel_of_mem_ways {p : Pattern} (hread : ∀ c t trail, R ⟨trail, c :: t⟩ ⟨.read c :: trail, t⟩)
    (hnote : ∀ m ∈ p.marks, ∀ f : Found, R f ⟨.note m :: f.trail, f.rest⟩) {f g : Found} (hg : g ∈ p.ways f) :
    R f g := by
  induction p generalizing f g with
  | empty =>
    rw [List.mem_singleton.1 hg]
    exact hrefl f
  | chars set =>
    obtain ⟨trail, rest⟩ := f
    cases rest with
    | nil => cases hg
    | cons c t =>
      simp only [ways] at hg
      split at hg
      · rw [List.mem_singleton.1 hg]
        exact hread c t trail
      · cases hg
  | seq p q ihp ihq =>
    obtain ⟨f', hf', hg⟩ := List.mem_flatMap.1 hg
    have hp := ihp (fun m hm => hnote m (List.mem_append_left _ hm)) hf'
    have hq := ihq (fun m hm => hnote m (List.mem_append_right _ hm)) hg
    exact htrans f f' g hp hq
  | alt p q ihp ihq =>
    rcases List.mem_append.1 hg with hg | hg
    · exact ihp (fun m hm => hnote m (List.mem_append_left _ hm)) hg
    · exact ihq (fun m hm => hnote m (List.mem_append_right _ hm)) hg
  | rounds greedy least most p ih =>
    exact rel_of_mem_repeated hrefl htrans (fun _ _ h => ih hnote h) greedy least most hg
  | mark m =>
    rw [List.mem_singleton.1 hg]
    exact hnote m (List.mem_singleton_self m) f
  | requires condition =>
    simp only [ways] at hg
    split at hg
    · rw [List.mem_singleton.1 hg]
      exact hrefl f
    · cases hg

end

theorem readText_append (es es' : List Event) :
    Event.readText (es ++ es') = Event.readText es ++ Event.readText es' := by
  induction es with
  | nil => rfl
  | cons e es ih => cases e <;> simp [Event.readText, ih]

/-- `g` has read the text `x` since `f`. -/
def HasRead (f g : Found) (x : Text) : Prop :=
  f.rest = x ++ g.rest ∧ Event.readText g.trail.reverse = Event.readText f.trail.reverse ++ x

private theorem HasRead.refl (f : Found) : HasRead f f [] := by
  simp [HasRead]

private theorem HasRead.trans {f g h : Found} {x y : Text} (hx : HasRead f g x) (hy : HasRead g h y) :
    HasRead f h (x ++ y) := by
  simp [HasRead, hx.1, hx.2, hy.1, hy.2]

theorem exists_read_of_mem_ways (p : Pattern) {f g : Found} (hg : g ∈ p.ways f) : ∃ x, HasRead f g x := by
  refine rel_of_mem_ways (R := fun f g => ∃ x, HasRead f g x) (fun f => ⟨[], .refl f⟩) ?_ ?_ ?_ hg
  · rintro f g h ⟨x, hx⟩ ⟨y, hy⟩
    exact ⟨x ++ y, hx.trans hy⟩
  · intro c t trail
    exact ⟨[c], by simp [HasRead, readText_append, Event.readText]⟩
  · intro m _ f
    exact ⟨[], by simp [HasRead, readText_append, Event.readText]⟩

theorem exists_read_of_mem_waysOfAll {ps : List Pattern} {f g : Found} (hg : g ∈ waysOfAll ps f) :
    ∃ x, HasRead f g x := by
  induction ps generalizing f with
  | nil =>
    rw [List.mem_singleton.1 hg]
    exact ⟨[], .refl f⟩
  | cons p ps ih =>
    obtain ⟨f', hf', hg⟩ := List.mem_flatMap.1 hg
    obtain ⟨x, hx⟩ := exists_read_of_mem_ways p hf'
    obtain ⟨y, hy⟩ := ih hg
    exact ⟨x ++ y, hx.trans hy⟩

/-! ### The future depends on the spot -/

theorem isPast_congr {f g f' g' : Found} (h : f.SameSpot g) (h' : f'.SameSpot g') :
    isPast Found.left f f' = isPast Found.left g g' := by
  unfold isPast Found.left
  rw [h.2, h'.2]

private theorem any_eq_of_sameSpot {P Q : Found → Bool} (hPQ : ∀ f g, f.SameSpot g → P f = Q g) {l m : List Found}
    (h : List.Forall₂ Found.SameSpot l m) : l.any P = m.any Q := by
  induction h with
  | nil => rfl
  | cons hfg _ ih => simp only [List.any_cons, hPQ _ _ hfg, ih]

private theorem filter_isPast_sameSpot {f g : Found} (h : f.SameSpot g) {l m : List Found}
    (hl : List.Forall₂ Found.SameSpot l m) :
    List.Forall₂ Found.SameSpot (l.filter (isPast Found.left f)) (m.filter (isPast Found.left g)) := by
  induction hl with
  | nil => exact .nil
  | cons h' _ ih =>
    rw [List.filter_cons, List.filter_cons, ← isPast_congr h h']
    split
    · exact .cons h' ih
    · exact ih

private theorem flatMap_sameSpot {next : Found → List Found} {l m : List Found}
    (hl : List.Forall₂ Found.SameSpot l m)
    (hnext : ∀ f ∈ l, ∀ g, f.SameSpot g → List.Forall₂ Found.SameSpot (next f) (next g)) :
    List.Forall₂ Found.SameSpot (l.flatMap next) (m.flatMap next) := by
  induction hl with
  | nil => exact .nil
  | cons h _ ih =>
    rw [List.flatMap_cons, List.flatMap_cons]
    exact List.rel_append (hnext _ (by simp) _ h) (ih fun f hf => hnext f (by simp [hf]))

private theorem repeated_sameSpot {through : Found → List Found}
    (hstep : ∀ f g, f.SameSpot g → List.Forall₂ Found.SameSpot (through f) (through g)) (greedy : Bool)
    (least : Nat) (most : Option Nat) {f g : Found} (h : f.SameSpot g) :
    List.Forall₂ Found.SameSpot (repeated Found.left through greedy least most f)
      (repeated Found.left through greedy least most g) := by
  -- every round that is taken shortens the rest
  induction hn : f.rest.length using Nat.strongRecOn generalizing f g least most with
  | ind n ih =>
    have hreq : required Found.left through least f = required Found.left through least g := by
      unfold required
      rw [any_eq_of_sameSpot (fun f' g' h' => by rw [isPast_congr h h']) (hstep f g h)]
    have hmore : List.Forall₂ Found.SameSpot (moreRounds Found.left through greedy least most f)
        (moreRounds Found.left through greedy least most g) := by
      unfold moreRounds
      rw [hreq]
      refine flatMap_sameSpot (filter_isPast_sameSpot h (hstep f g h)) ?_
      intro f' hf' g' h'
      have hlt : f'.rest.length < n := by simpa [isPast, Found.left, hn] using (List.mem_filter.1 hf').2
      exact ih _ hlt _ _ h' rfl
    rw [repeated_eq, repeated_eq, hreq]
    split
    · exact .cons h .nil
    · split
      · exact hmore
      · split
        · exact List.rel_append hmore (.cons h .nil)
        · exact .cons h hmore

theorem ways_sameSpot (p : Pattern) {f g : Found} (h : f.SameSpot g) :
    List.Forall₂ Found.SameSpot (p.ways f) (p.ways g) := by
  induction p generalizing f g with
  | empty => exact .cons h .nil
  | chars set =>
    obtain ⟨tf, rf⟩ := f
    obtain ⟨tg, rg⟩ := g
    obtain ⟨-, rfl⟩ : Event.lastRead tf = Event.lastRead tg ∧ rf = rg := h
    cases rf with
    | nil => exact .nil
    | cons c t =>
      simp only [ways]
      split
      · exact .cons ⟨rfl, rfl⟩ .nil
      · exact .nil
  | seq p q ihp ihq => exact List.rel_flatMap (ihp h) (fun _ _ h' => ihq h')
  | alt p q ihp ihq => exact List.rel_append (ihp h) (ihq h)
  | rounds greedy least most p ih => exact repeated_sameSpot (fun _ _ h' => ih h') greedy least most h
  | mark m => exact .cons ⟨h.1, h.2⟩ .nil
  | requires condition =>
    simp only [ways, h.place_eq]
    split
    · exact .cons h .nil
    · exact .nil

end Pattern

end SelectorSyntax
