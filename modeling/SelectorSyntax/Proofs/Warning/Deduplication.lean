import Mathlib.Data.List.Basic
import Mathlib.Data.List.Infix
import SelectorSyntax.Warning

/-!
# Repeated warnings

A log prints a warning unless one that it cannot tell from it was given since the log was last cleared.  It knows a
warning by one text, the component and the message with a bracket and a blank between them, and these two characters
may stand in the component or in the message as well.

* `key_eq_key_iff`: two warnings have the same text exactly if they are the same, or if one is the other split at a
  later bracket and blank (`Overlaps`).
* `hasWarned_run`: what the log recognizes after any number of steps, from one lemma for each kind of step.
* `hasWarned_iff_stands`: the log tells a warning from all others exactly if neither of its parts has a bracket and a
  blank in it.
-/

namespace SelectorSyntax.WarningLog

/-! ### Texts of warnings -/

/-- What stands between the component and the message. -/
def joint : Text :=
  "] ".toList

/-- The first warning is the second one split at a later joint. -/
def Overlaps (component message component' message' : Text) : Prop :=
  ∃ u, component = component' ++ joint ++ u ∧ message' = u ++ joint ++ message

/-- Warnings of the same text. -/
def Alike (component message component' message' : Text) : Prop :=
  component = component' ∧ message = message' ∨ Overlaps component message component' message' ∨
    Overlaps component' message' component message

variable {c m c' m' u : Text} {log : WarningLog}

theorem key_eq (component message : Text) : key component message = '[' :: (component ++ joint ++ message) := by
  simp [key, joint]

theorem Overlaps.key_eq_key (h : Overlaps c m c' m') : key c m = key c' m' := by
  obtain ⟨u, rfl, rfl⟩ := h
  simp [key_eq]

/-- No joint begins inside of another. -/
theorem eq_or_overlaps_of_append (h : joint ++ m' = u ++ (joint ++ m)) :
    u = [] ∧ m = m' ∨ Overlaps (c ++ u) m c m' := by
  match u with
  | [] => exact .inl ⟨rfl, (List.append_cancel_left h).symm⟩
  | [d] => simp [joint] at h
  | d :: e :: u =>
    have hparts : ']' = d ∧ ' ' = e ∧ m' = u ++ joint ++ m := by simpa [joint] using h
    obtain ⟨rfl, rfl, rfl⟩ := hparts
    exact .inr ⟨u, by simp [joint], rfl⟩

theorem key_eq_key_iff : key c m = key c' m' ↔ Alike c m c' m' := by
  constructor
  · intro h
    have happend : c ++ (joint ++ m) = c' ++ (joint ++ m') := by simpa [key_eq] using h
    -- one component is the beginning of the other
    rcases List.append_eq_append_iff.1 happend with ⟨u, rfl, hu⟩ | ⟨u, rfl, hu⟩
    · rcases eq_or_overlaps_of_append (c := c) hu with ⟨rfl, rfl⟩ | h
      · exact .inl ⟨by simp, rfl⟩
      · exact .inr (.inr h)
    · rcases eq_or_overlaps_of_append (c := c') hu with ⟨rfl, rfl⟩ | h
      · exact .inl ⟨by simp, rfl⟩
      · exact .inr (.inl h)
  · intro h
    rcases h with ⟨rfl, rfl⟩ | h | h
    · rfl
    · exact h.key_eq_key
    · exact h.key_eq_key.symm

/-- Another warning of the same text has its joint in the message or in the component of the first. -/
theorem Alike.eq_of_not_infix (hc : ¬ joint <:+: c) (hm : ¬ joint <:+: m) (h : Alike c' m' c m) : c' = c ∧ m' = m := by
  rcases h with h | ⟨u, -, rfl⟩ | ⟨u, rfl, -⟩
  · exact h
  · exact absurd ⟨u, m', rfl⟩ hm
  · exact absurd ⟨c', u, rfl⟩ hc

/-- A warning with a joint in one of its parts has the text of another one. -/
theorem exists_alike_of_infix (h : joint <:+: c ∨ joint <:+: m) : ∃ c' m', Alike c' m' c m ∧ ¬ (c' = c ∧ m' = m) := by
  have hne (u : Text) : c ++ joint ++ u ≠ c := by simp [joint]
  rcases h with ⟨a, u, rfl⟩ | ⟨u, b, rfl⟩
  · exact ⟨a, u ++ joint ++ m, .inr (.inr ⟨u, rfl, rfl⟩), by simp [joint]⟩
  · exact ⟨c ++ joint ++ u, b, .inr (.inl ⟨u, rfl, rfl⟩), by simp [joint]⟩

/-! ### Steps -/

/-- What is done with a log. -/
inductive Step
  | warn (component message : Text)
  | clear
deriving DecidableEq

def take (log : WarningLog) : Step → WarningLog
  | .warn component message => log.warn component message
  | .clear => log.clear

def run (log : WarningLog) (steps : List Step) : WarningLog :=
  steps.foldl take log

/-- The warning was given, and the log was not cleared after that. -/
def Stands (steps : List Step) (component message : Text) : Prop :=
  ∃ before after, steps = before ++ .warn component message :: after ∧ .clear ∉ after

variable {steps : List Step}

theorem run_concat (log : WarningLog) (steps : List Step) (s : Step) :
    run log (steps ++ [s]) = (run log steps).take s := by
  simp [run]

theorem not_stands_nil : ¬ Stands [] c m := by
  simp [Stands]

theorem stands_concat {s : Step} : Stands (steps ++ [s]) c m ↔ s = .warn c m ∨ s ≠ .clear ∧ Stands steps c m := by
  constructor
  · intro h
    obtain ⟨before, after, heq, hafter⟩ := h
    rcases List.eq_nil_or_concat after with rfl | ⟨after, s', rfl⟩
    · exact .inl (List.append_singleton_inj.1 heq).2
    · have hsplit : steps ++ [s] = (before ++ .warn c m :: after) ++ [s'] := by simpa using heq
      obtain ⟨rfl, rfl⟩ := List.append_singleton_inj.1 hsplit
      have hafter : .clear ∉ after ∧ .clear ≠ s := by simpa [not_or] using hafter
      exact .inr ⟨hafter.2.symm, before, after, rfl, hafter.1⟩
  · intro h
    rcases h with rfl | ⟨hs, before, after, rfl, hafter⟩
    · exact ⟨steps, [], rfl, List.not_mem_nil⟩
    · refine ⟨before, after ++ [s], by simp, ?_⟩
      simpa [hafter] using hs.symm

/-! ### What a log recognizes -/

theorem hasWarned_iff_mem : log.hasWarned c m = true ↔ key c m ∈ log.seen := by
  simp [hasWarned]

theorem mem_seen_warn {k : Text} : k ∈ (log.warn c m).seen ↔ k = key c m ∨ k ∈ log.seen := by
  unfold warn
  split
  · rename_i h
    rw [hasWarned_iff_mem] at h
    constructor
    · exact .inr
    · intro hk
      rcases hk with rfl | hk
      · exact h
      · exact hk
  · exact List.mem_cons

theorem nodup_seen_warn (h : log.seen.Nodup) : (log.warn c m).seen.Nodup := by
  unfold warn
  split
  · exact h
  · rename_i hnew
    rw [hasWarned_iff_mem] at hnew
    exact List.nodup_cons.2 ⟨hnew, h⟩

/-- A warning is printed and remembered, or neither. -/
theorem length_printed_warn :
    (log.warn c m).printed.length + log.seen.length = log.printed.length + (log.warn c m).seen.length := by
  unfold warn
  split
  · rfl
  · simp only [List.length_append, List.length_cons, List.length_nil]
    omega

/-- The texts that a log knows are those of the standing warnings. -/
theorem mem_seen_run {k : Text} : k ∈ (run .empty steps).seen ↔ ∃ c m, Stands steps c m ∧ key c m = k := by
  induction steps using List.reverseRecOn with
  | nil => simp [run, empty, not_stands_nil]
  | append_singleton steps s ih =>
    rw [run_concat]
    cases s with
    | warn c m =>
      rw [take, mem_seen_warn, ih]
      constructor
      · intro h
        rcases h with rfl | ⟨c', m', hstands, rfl⟩
        · exact ⟨c, m, stands_concat.2 (.inl rfl), rfl⟩
        · exact ⟨c', m', stands_concat.2 (.inr ⟨by simp, hstands⟩), rfl⟩
      · intro h
        obtain ⟨c', m', hstands, rfl⟩ := h
        rcases stands_concat.1 hstands with heq | ⟨-, hstands⟩
        · cases heq
          exact .inl rfl
        · exact .inr ⟨c', m', hstands, rfl⟩
    | clear => simp [take, clear, stands_concat]

theorem hasWarned_run : (run .empty steps).hasWarned c m = true ↔ ∃ c' m', Stands steps c' m' ∧ Alike c' m' c m := by
  simp only [hasWarned_iff_mem, mem_seen_run, key_eq_key_iff]

theorem stands_singleton : Stands [.warn c' m'] c m ↔ c' = c ∧ m' = m := by
  have h : Stands ([] ++ [.warn c' m']) c m ↔ _ := stands_concat
  simpa [not_stands_nil] using h

/-- A log recognizes a warning if one of the same text stands, and it prints those that it does not recognize.  It
recognizes just the warning itself, whatever was done before, exactly if there is no joint in its component and none in
its message. -/
theorem hasWarned_iff_stands (component message : Text) :
    (∀ steps, let log := run .empty steps
      (log.hasWarned component message = true ↔ ∃ c m, Stands steps c m ∧ Alike c m component message) ∧
        (log.warn component message).printed =
          log.printed ++ if log.hasWarned component message then [] else [line component message]) ∧
      ((∀ steps, (run .empty steps).hasWarned component message = true ↔ Stands steps component message) ↔
        ¬ joint <:+: component ∧ ¬ joint <:+: message) := by
  refine ⟨fun steps => ⟨hasWarned_run, ?_⟩, ?_⟩
  · unfold warn
    split <;> simp
  constructor
  · intro h
    rw [← not_or]
    intro hjoint
    obtain ⟨c, m, halike, hne⟩ := exists_alike_of_infix hjoint
    have hwarned := hasWarned_run.2 ⟨c, m, stands_singleton.2 ⟨rfl, rfl⟩, halike⟩
    exact hne (stands_singleton.1 ((h _).1 hwarned))
  · intro h steps
    rw [hasWarned_run]
    constructor
    · intro hwarned
      obtain ⟨c, m, hstands, halike⟩ := hwarned
      obtain ⟨rfl, rfl⟩ := halike.eq_of_not_infix h.1 h.2
      exact hstands
    · intro hstands
      exact ⟨_, _, hstands, .inl ⟨rfl, rfl⟩⟩

/-- A warning that was never given is recognized, and so it is not printed. -/
theorem hasWarned_of_joint :
    let log := run .empty [.warn "A] b".toList "c".toList]
    log.hasWarned "A".toList "b] c".toList = true ∧ ¬ Stands [.warn "A] b".toList "c".toList] "A".toList "b] c".toList ∧
      (log.warn "A".toList "b] c".toList).printed = log.printed := by
  refine ⟨by decide, ?_, by decide⟩
  rw [stands_singleton]
  decide

end SelectorSyntax.WarningLog
