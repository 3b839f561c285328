import Mathlib.Data.List.Induction
import Mathlib.Logic.Function.Basic
import SelectorSyntax.Proofs.Warning.Deduplication

/-!
# Warnings of one component

Warnings of the same component are told apart by their messages alone.  So a log that gives one after the other prints
each of them at its first occurrence: what it prints are the messages in order without the repeated ones
(`printed_warnAll`), where `List.eraseDups` keeps the first of equal members.

The facts on `List.eraseDups` say how it goes together with adding a member at the end, with injective maps, and with
lists that are put together from others (`eraseDups_flatMap`).
-/

namespace SelectorSyntax.WarningLog

/-! ### First occurrences -/

section

variable {α β : Type} [BEq α] [LawfulBEq α]

theorem eraseDups_concat (l : List α) (a : α) :
    (l ++ [a]).eraseDups = if a ∈ l then l.eraseDups else l.eraseDups ++ [a] := by
  rw [List.eraseDups_append]
  split
  · rename_i h
    simp [List.removeAll, h]
  · rename_i h
    simp [List.removeAll, h, List.eraseDups_cons]

theorem eraseDups_map [BEq β] [LawfulBEq β] {f : α → β} (hf : f.Injective) (l : List α) :
    (l.map f).eraseDups = l.eraseDups.map f := by
  induction l using List.reverseRecOn with
  | nil => rfl
  | append_singleton l a ih =>
    rw [List.map_append, List.map_singleton, eraseDups_concat, eraseDups_concat, ih]
    simp only [List.mem_map_of_injective hf]
    split <;> simp

theorem eraseDups_append_eraseDups (l r : List α) : (l ++ r.eraseDups).eraseDups = (l ++ r).eraseDups := by
  induction r using List.reverseRecOn with
  | nil => rfl
  | append_singleton r a ih =>
    rw [eraseDups_concat, ← List.append_assoc, eraseDups_concat]
    by_cases ha : a ∈ r
    · simp [ha, ih]
    · rw [if_neg ha, ← List.append_assoc, eraseDups_concat, ih]
      simp

theorem eraseDups_eraseDups_append (l r : List α) : (l.eraseDups ++ r).eraseDups = (l ++ r).eraseDups := by
  induction r using List.reverseRecOn with
  | nil => simpa using eraseDups_append_eraseDups [] l
  | append_singleton r a ih =>
    rw [← List.append_assoc, ← List.append_assoc, eraseDups_concat, eraseDups_concat, ih]
    simp

/-- Repetitions within the parts can be dropped first. -/
theorem eraseDups_flatMap (f : β → List α) (l : List β) :
    (l.flatMap fun b => (f b).eraseDups).eraseDups = (l.flatMap f).eraseDups := by
  induction l with
  | nil => rfl
  | cons b l ih =>
    calc ((f b).eraseDups ++ l.flatMap fun b => (f b).eraseDups).eraseDups
        = (f b ++ (l.flatMap fun b => (f b).eraseDups).eraseDups).eraseDups := by
          rw [eraseDups_eraseDups_append, eraseDups_append_eraseDups]
      _ = (f b ++ l.flatMap f).eraseDups := by rw [ih, eraseDups_append_eraseDups]

end

/-! ### Messages -/

variable {c m : Text} {messages : List Text}

/-- Gives warnings of the same component one after the other. -/
def warnAll (log : WarningLog) (component : Text) (messages : List Text) : WarningLog :=
  messages.foldl (fun log m => log.warn component m) log

theorem warnAll_append (log : WarningLog) (c : Text) (messages more : List Text) :
    log.warnAll c (messages ++ more) = (log.warnAll c messages).warnAll c more :=
  List.foldl_append

theorem warnAll_concat (log : WarningLog) (c : Text) (messages : List Text) (m : Text) :
    log.warnAll c (messages ++ [m]) = (log.warnAll c messages).warn c m :=
  warnAll_append log c messages [m]

theorem key_injective (c : Text) : Function.Injective (key c) := by
  intro m m' h
  simpa only [key, List.append_right_inj] using h

theorem line_injective (c : Text) : Function.Injective (line c) := by
  intro m m' h
  obtain ⟨before, after, hline⟩ : ∃ before after, ∀ m, line c m = before ++ m ++ after := ⟨_, _, fun _ => rfl⟩
  simpa only [hline, List.append_left_inj, List.append_right_inj] using h

theorem hasWarned_warnAll : (warnAll .empty c messages).hasWarned c m = true ↔ m ∈ messages := by
  rw [hasWarned_iff_mem]
  induction messages using List.reverseRecOn with
  | nil => simp [warnAll, empty]
  | append_singleton messages m' ih =>
    rw [warnAll_concat, mem_seen_warn, ih, (key_injective c).eq_iff, List.mem_append, List.mem_singleton, or_comm]

/-- Each message is printed where it occurs first. -/
theorem printed_warnAll (c : Text) (messages : List Text) :
    (warnAll .empty c messages).printed = messages.eraseDups.map (line c) := by
  induction messages using List.reverseRecOn with
  | nil => rfl
  | append_singleton messages m ih =>
    rw [warnAll_concat, warn, eraseDups_concat]
    simp only [hasWarned_warnAll]
    split
    · exact ih
    · simp [ih]

end SelectorSyntax.WarningLog
