import SelectorSyntax.Proofs.Grammar.Recognition
import SelectorSyntax.Proofs.Text.Case

/-!
# Patterns that ignore case

A set of characters ignores case if it has with each capital also the small letter, and with each small letter the
capital.  A pattern ignores case if all of its sets do.  On a text in lower case such a pattern leaves what it leaves
on the text itself, in the same order and in lower case (`map_lower_ends`), so that a search finds a match of the same
length.

The patterns of the productions spell out both cases, letter by letter, and all of them ignore case
(`Production.ignoresCase_pattern`).
-/

namespace SelectorSyntax

/-- Whether a set has both cases of each letter or neither. -/
def CharSet.ignoresCase (set : CharSet) : Bool :=
  Text.capitals.all fun c => set.contains c.toLower == set.contains c

theorem CharSet.contains_toLower {set : CharSet} (h : set.ignoresCase) (c : Char) :
    set.contains c.toLower = set.contains c := by
  refine Text.forall_toLower (Q := fun d c => set.contains d = set.contains c) (fun _ => rfl) ?_ c
  simpa [ignoresCase] using h

namespace Pattern

/-- Whether all sets of characters in a pattern ignore case. -/
def ignoresCase : Pattern → Bool
  | .chars set => set.ignoresCase
  | .seq p q | .alt p q => p.ignoresCase && q.ignoresCase
  | .rounds _ _ _ p => p.ignoresCase
  | .empty | .mark _ | .requires _ => true

variable {p : Pattern}

theorem map_lower_ends (hp : p.ignoresCase) (t : Text) : (p.ends t).map Text.lower = p.ends (Text.lower t) := by
  induction p generalizing t with
  | empty | mark | requires => rfl
  | chars set =>
    cases t with
    | nil => rfl
    | cons c t =>
      simp only [ends, Text.lower_cons, CharSet.contains_toLower hp]
      split <;> rfl
  | seq p q ihp ihq =>
    have hp := Bool.and_eq_true_iff.1 hp
    rw [ends, ends, ← ihp hp.1, List.map_flatMap, List.flatMap_map]
    exact List.flatMap_congr fun r _ => ihq hp.2 r
  | alt p q ihp ihq =>
    have hp := Bool.and_eq_true_iff.1 hp
    rw [ends, ends, List.map_append, ihp hp.1, ihq hp.2]
  | rounds greedy least most p ih => exact repeated_map Text.length_lower (ih hp) greedy least most t

theorem leadLength?_lower (hp : p.isUnconditional) (hcase : p.ignoresCase) (t : Text) :
    p.leadLength? (Text.lower t) = p.leadLength? t := by
  rw [leadLength?_eq hp, leadLength?_eq hp, ← map_lower_ends hcase, List.head?_map, Option.map_map]
  simp [Function.comp_def]

theorem accepts_lower (hp : p.isUnconditional) (hcase : p.ignoresCase) (t : Text) :
    p.accepts (Text.lower t) = p.accepts t := by
  have hnil (t : Text) : p.accepts t = true ↔ [] ∈ p.ends t := by
    rw [accepts_iff_matches hp, mem_ends]
    simp
  rw [Bool.eq_iff_iff, hnil, hnil, ← map_lower_ends hcase, List.mem_map]
  constructor
  · rintro ⟨r, hr, hlower⟩
    rwa [List.map_eq_nil_iff.1 hlower] at hr
  · intro h
    exact ⟨[], h, rfl⟩

end Pattern

namespace Production

theorem ignoresCase_pattern (p : Production) : p.pattern.ignoresCase := by
  -- the patterns share their lexemes, so they are checked together
  have hall : ∀ p ∈ all, p.pattern.ignoresCase := by decide +kernel
  exact hall p (by cases p <;> decide)

theorem leadLength?_lower (p : Production) (t : Text) : p.leadLength? (Text.lower t) = p.leadLength? t :=
  Pattern.leadLength?_lower p.isUnconditional_pattern p.ignoresCase_pattern t

theorem leadBytes_lower (p : Production) (t : Text) :
    (p.leadLength? (Text.lower t)).map (fun n => Text.byteLength ((Text.lower t).take n)) =
      (p.leadLength? t).map fun n => Text.byteLength (t.take n) := by
  have htake (n : Nat) : (Text.lower t).take n = Text.lower (t.take n) := List.map_take.symm
  simp only [leadLength?_lower, htake, Text.byteLength_lower]

theorem accepts_lower (p : Production) (t : Text) : p.accepts (Text.lower t) = p.accepts t :=
  Pattern.accepts_lower p.isUnconditional_pattern p.ignoresCase_pattern t

end Production

end SelectorSyntax
