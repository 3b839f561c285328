import SelectorSyntax.Proofs.Pattern.Preference

/-!
# Searching by trial

The plainest search for a match follows one way at a time.  What is left of the text is handed to a continuation, and
where that fails the search goes back to its last choice: alternatives are tried from left to right, and a greedy
repetition tries one more round before it stops.  It keeps nothing of what has failed, so it may take exponential time.

* `Pattern.backtrack` is this search, and its continuation is what the rest of the pattern comes to.
* A repetition whose body matches no text at all could go on forever, so a round has to read something.  The patterns
  of the grammar have no such repetition (`isProductive`).
* `backtrack_eq_findSome?`: what is found is the first success among the `ends`, in their order.
* `leadLength?_eq_trialLength?`: so the search that runs all ways side by side finds the same.

As for `ends`, patterns are meant to have no conditions.
-/

namespace SelectorSyntax.Pattern

variable {α : Type} {p : Pattern}

/-- Tries the rounds of a repetition, where `step` tries a single round before a continuation. -/
def tryRounds (step : (Text → Option α) → Text → Option α) (greedy : Bool) (least : Nat) (most : Option Nat)
    (k : Text → Option α) (t : Text) : Option α :=
  if most = some 0 then k t
  else
    let more := step (fun r =>
      if r.length < t.length then tryRounds step greedy (least - 1) (most.map (· - 1)) k r else none) t
    if least > 0 then more else if greedy then more <|> k t else k t <|> more
termination_by t.length

/-- The first success of the continuation on what is left of the text after the pattern. -/
def backtrack : Pattern → (Text → Option α) → Text → Option α
  | .empty, k, t => k t
  | .chars set, k, t =>
    match t with
    | c :: t => if set.contains c then k t else none
    | [] => none
  | .seq p q, k, t => p.backtrack (q.backtrack k) t
  | .alt p q, k, t => p.backtrack k t <|> q.backtrack k t
  | .rounds greedy least most p, k, t => tryRounds p.backtrack greedy least most k t
  | .mark _, k, t => k t
  | .requires _, _, _ => none

/-- The number of characters of the match that is found first at the beginning of the text. -/
def trialLength? (p : Pattern) (t : Text) : Option Nat :=
  (p.backtrack some t).map fun rest => t.length - rest.length

/-! ### Rounds that read -/

/-- Whether a pattern stands for the empty text. -/
def isNullable : Pattern → Bool
  | .empty | .mark _ => true
  | .chars _ | .requires _ => false
  | .seq p q => p.isNullable && q.isNullable
  | .alt p q => p.isNullable || q.isNullable
  | .rounds _ least most p => least == 0 || most == some 0 || p.isNullable

/-- Whether every round of every repetition reads something. -/
def isProductive : Pattern → Bool
  | .seq p q | .alt p q => p.isProductive && q.isProductive
  | .rounds _ _ _ p => !p.isNullable && p.isProductive
  | .empty | .chars _ | .mark _ | .requires _ => true

theorem isNullable_of_matches (h : p.Matches []) : p.isNullable := by
  induction p with
  | empty | mark => rfl
  | chars set =>
    obtain ⟨c, -, h⟩ := h
    cases h
  | seq p q ihp ihq =>
    obtain ⟨x, y, hx, hy, heq⟩ := h
    obtain ⟨rfl, rfl⟩ := List.append_eq_nil_iff.1 heq.symm
    simp [isNullable, ihp hx, ihq hy]
  | alt p q ihp ihq =>
    rcases h with h | h
    · simp [isNullable, ihp h]
    · simp [isNullable, ihq h]
  | rounds greedy least most p ih =>
    obtain ⟨n, hn, h⟩ := h
    generalize ht : ([] : Text) = t at h
    cases h with
    | zero =>
      rcases hn.2 with hleast | hmost
      · simp [isNullable, Nat.le_zero.1 hleast]
      · simp [isNullable, hmost]
    | succ hx hy =>
      obtain ⟨rfl, -⟩ := List.append_eq_nil_iff.1 ht.symm
      simp [isNullable, ih hx]
  | requires condition => cases h

/-! ### The first success -/

private theorem tryRounds_eq_findSome? (hp : ¬ p.Matches [])
    (hstep : ∀ (k : Text → Option α) t, p.backtrack k t = (p.ends t).findSome? k) (greedy : Bool) (least : Nat)
    (most : Option Nat) (k : Text → Option α) (t : Text) :
    tryRounds p.backtrack greedy least most k t =
      (repeated List.length p.ends greedy least most t).findSome? k := by
  induction hn : t.length using Nat.strongRecOn generalizing t least most with
  | ind n ih =>
    have hmore : p.backtrack (fun r => if r.length < t.length then
          tryRounds p.backtrack greedy (least - 1) (most.map (· - 1)) k r else none) t =
        ((p.ends t).flatMap
          (repeated List.length p.ends greedy (least - 1) (most.map (· - 1)))).findSome? k := by
      rw [hstep, findSome?_flatMap]
      refine findSome?_congr fun r hr => ?_
      have hlt := length_lt_of_mem_ends hp hr
      rw [if_pos hlt]
      exact ih _ (hn ▸ hlt) _ _ r rfl
    rw [tryRounds, repeated_eq, moreRounds_eq hp, required_eq_least hp]
    simp only [hmore]
    split
    · simp
    · split
      · rfl
      · cases hk : k t <;> split <;> simp [List.findSome?_append, hk]

theorem backtrack_eq_findSome? (hp : p.isProductive) (k : Text → Option α) (t : Text) :
    p.backtrack k t = (p.ends t).findSome? k := by
  induction p generalizing k t with
  | empty | mark => simp [backtrack, ends]
  | chars set =>
    cases t with
    | nil => rfl
    | cons c t =>
      simp only [backtrack, ends]
      split <;> simp
  | seq p q ihp ihq =>
    have hp := Bool.and_eq_true_iff.1 hp
    rw [backtrack, ihp hp.1, ends, findSome?_flatMap, funext (ihq hp.2 k)]
  | alt p q ihp ihq =>
    have hp := Bool.and_eq_true_iff.1 hp
    rw [backtrack, ihp hp.1, ihq hp.2, ends, List.findSome?_append, Option.orElse_eq_orElse, Option.orElse_eq_or]
  | rounds greedy least most p ih =>
    obtain ⟨hnull, hp⟩ := Bool.and_eq_true_iff.1 hp
    have hne : ¬ p.Matches [] := fun h => by simp [isNullable_of_matches h] at hnull
    rw [backtrack, ends]
    exact tryRounds_eq_findSome? hne (ih hp) greedy least most k t
  | requires condition => rfl

theorem leadLength?_eq_trialLength? (hp : p.isUnconditional) (hprod : p.isProductive) (t : Text) :
    p.leadLength? t = p.trialLength? t := by
  have hfirst : (p.ends t).findSome? some = (p.ends t).head? := by
    cases p.ends t <;> rfl
  rw [leadLength?_eq hp, trialLength?, backtrack_eq_findSome? hprod, hfirst]

end SelectorSyntax.Pattern
