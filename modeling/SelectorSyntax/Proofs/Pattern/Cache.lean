import Mathlib.Algebra.GroupWithZero.Nat
import Mathlib.Data.List.Dedup
import SelectorSyntax.PatternCache
import SelectorSyntax.Proofs.Warning.Deduplication

/-!
# Patterns that are kept

Whatever engine compiles the patterns, whether a text matches a written pattern does not depend on the patterns that
were looked up before.  What a session keeps is told by the texts that it looked up (`Step.looksUp`): the readable ones,
which the engine compiles, are kept once each, and what is wrong with the others is said once each between any two
clearings.

* `Reflects`: the invariant, with a step lemma for a single look-up (`Reflects.find`), a run lemma for a row of them
  (`Reflects.lookUpAll`) and one for clearing (`Reflects.clearWarnings`).
* Between two clearings a session is a row of look-ups (`run_eq_lookUpAll`), so warnings are counted by induction on the
  stretches between clearings (`Reflects.length_printed_run`).
* An engine may find the same fault with two patterns, and then warns about one of them only.  Where it tells them apart
  (`TellsApart`) there are as many warnings as unreadable texts (`length_faults`).
-/

namespace SelectorSyntax.PatternCache

open Pattern (Engine)

/-! ### Sessions -/

inductive Step
  | matchWhole (written candidate : Text)
  | elementVocabulary (name : Text)
  | matchProduction (p : Production) (candidate : Text)
  | clearWarnings
deriving DecidableEq

inductive Answer
  | verdict (matched : Bool)
  | vocabulary (v : Option Vocabulary)
  | silence
deriving DecidableEq

variable {engine : Engine}

/-- What a step answers, and the cache after it. -/
def take (cache : PatternCache engine) : Step → Answer × PatternCache engine
  | .matchWhole written candidate =>
    let (matched, cache) := cache.matchesWhole written candidate
    (.verdict matched, cache)
  | .elementVocabulary name =>
    let (v, cache) := cache.elementVocabulary? name
    (.vocabulary v, cache)
  | .matchProduction p candidate => (.verdict (p.accepts candidate), cache)
  | .clearWarnings => (.silence, cache.clearWarnings)

def run (cache : PatternCache engine) (steps : List Step) : PatternCache engine :=
  steps.foldl (fun cache s => (cache.take s).2) cache

/-- Whether the candidate as a whole matches the written pattern, which is compiled for this purpose only. -/
def matchesAfresh (engine : Engine) (written candidate : Text) : Bool :=
  match engine.compileWhole written with
  | .ok p => engine.isMatch p candidate
  | .error _ => false

/-- The answer to a step, where nothing is kept. -/
def Step.answer (engine : Engine) : Step → Answer
  | .matchWhole written candidate => .verdict (matchesAfresh engine written candidate)
  | .elementVocabulary name =>
    .vocabulary ((Vocabulary.listedElement? name).or
      (if matchesAfresh engine customElementName name then some .customElement else none))
  | .matchProduction p candidate => .verdict (p.accepts candidate)
  | .clearWarnings => .silence

/-- The written patterns that a step looks up. -/
def Step.looksUp : Step → List Text
  | .matchWhole written _ => [written]
  | .elementVocabulary name => if (Vocabulary.listedElement? name).isNone then [customElementName] else []
  | .matchProduction _ _ => []
  | .clearWarnings => []

/-- The texts of a list that the engine compiles, each once. -/
def readable (engine : Engine) (texts : List Text) : List Text :=
  (texts.filter fun t => (engine.compileWhole t).isOk).dedup

/-- The texts of a list that the engine does not compile, each once. -/
def unreadable (engine : Engine) (texts : List Text) : List Text :=
  (texts.filter fun t => !(engine.compileWhole t).isOk).dedup

/-- What is wrong with a text that the engine does not compile. -/
def fault? (engine : Engine) (written : Text) : Option Text :=
  match engine.compileWhole written with
  | .ok _ => none
  | .error fault => some fault

/-- What is wrong with the unreadable texts of a list, each fault once. -/
def faults (engine : Engine) (texts : List Text) : List Text :=
  (texts.filterMap (fault? engine)).dedup

/-- No two texts of a list have the same fault. -/
def TellsApart (engine : Engine) (texts : List Text) : Prop :=
  ∀ s ∈ texts, ∀ t ∈ texts, ∀ fault, engine.compileWhole s = .error fault → engine.compileWhole t = .error fault → s = t

variable {cache : PatternCache engine} {entries : List (Text × engine.Compiled)} {warnings : WarningLog}
  {written current texts : List Text} {w fault : Text} {p : engine.Compiled}

theorem mem_readable : w ∈ readable engine texts ↔ w ∈ texts ∧ ∃ p, engine.compileWhole w = .ok p := by
  rw [readable, List.mem_dedup, List.mem_filter]
  cases engine.compileWhole w <;> simp [Except.isOk, Except.toBool]

theorem mem_unreadable : w ∈ unreadable engine texts ↔ w ∈ texts ∧ ∃ fault, engine.compileWhole w = .error fault := by
  rw [unreadable, List.mem_dedup, List.mem_filter]
  cases engine.compileWhole w <;> simp [Except.isOk, Except.toBool]

theorem fault?_eq_some_iff : fault? engine w = some fault ↔ engine.compileWhole w = .error fault := by
  unfold fault?
  cases engine.compileWhole w <;> simp

theorem mem_faults : fault ∈ faults engine texts ↔ ∃ w ∈ texts, engine.compileWhole w = .error fault := by
  simp only [faults, List.mem_dedup, List.mem_filterMap, fault?_eq_some_iff]

/-- An engine that tells the texts apart finds as many faults as there are unreadable texts. -/
theorem length_faults (h : TellsApart engine texts) :
    (faults engine texts).length = (unreadable engine texts).length := by
  have hfaults : ((faults engine texts).map (Except.error : Text → Except Text engine.Compiled)).Nodup :=
    (List.nodup_dedup _).map fun _ _ => Except.error.inj
  have hunreadable : ((unreadable engine texts).map engine.compileWhole).Nodup := by
    refine (List.nodup_dedup _).map_on fun s hs t ht heq => ?_
    obtain ⟨hs, fault, hread⟩ := mem_unreadable.1 hs
    exact h s hs t (mem_unreadable.1 ht).1 fault hread (heq ▸ hread)
  have hperm : ((faults engine texts).map .error).Perm ((unreadable engine texts).map engine.compileWhole) := by
    rw [List.perm_ext_iff_of_nodup hfaults hunreadable]
    intro result
    simp only [List.mem_map, mem_faults, mem_unreadable]
    constructor
    · intro hmem
      obtain ⟨fault, ⟨w, hw, hread⟩, rfl⟩ := hmem
      exact ⟨w, ⟨hw, fault, hread⟩, hread⟩
    · intro hmem
      obtain ⟨w, ⟨hw, fault, hread⟩, rfl⟩ := hmem
      exact ⟨fault, ⟨w, hw, hread⟩, hread.symm⟩
  simpa only [List.length_map] using hperm.length_eq

/-! ### What is kept -/

/-- Of the texts that were looked up the readable ones are kept, each once and with its compiled pattern. -/
structure Keeps (entries : List (Text × engine.Compiled)) (written : List Text) : Prop where
  nodup : (entries.map Prod.fst).Nodup
  lookup_eq_some_iff : ∀ w p, entries.lookup w = some p ↔ w ∈ written ∧ engine.compileWhole w = .ok p

theorem Keeps.mem_keys_iff (h : Keeps entries written) :
    w ∈ entries.map Prod.fst ↔ w ∈ written ∧ ∃ p, engine.compileWhole w = .ok p := by
  have hkey : w ∉ entries.map Prod.fst ↔ entries.lookup w = none := by
    rw [List.lookup_eq_none_iff]
    simp only [List.mem_map, not_exists, not_and, bne_iff_ne, ne_eq]
    exact ⟨fun h e he heq => h e he heq.symm, fun h e he heq => h e he heq.symm⟩
  rw [← not_iff_not, hkey, Option.eq_none_iff_forall_ne_some]
  simp only [ne_eq, h.lookup_eq_some_iff, ← not_exists, exists_and_left]

theorem Keeps.length_eq (h : Keeps entries written) : entries.length = (readable engine written).length := by
  have hnodup : (readable engine written).Nodup := List.nodup_dedup _
  have hperm : (entries.map Prod.fst).Perm (readable engine written) := by
    rw [List.perm_ext_iff_of_nodup h.nodup hnodup]
    intro w
    rw [h.mem_keys_iff, mem_readable]
  rw [← hperm.length_eq, List.length_map]

/-- Nothing is added for a text that is known. -/
theorem Keeps.concat_of_known (h : Keeps entries written) (hw : w ∈ written) : Keeps entries (written ++ [w]) := by
  refine ⟨h.nodup, fun v p => ?_⟩
  have hmem : v ∈ written ++ [w] ↔ v ∈ written := by
    rw [List.mem_append, List.mem_singleton, or_iff_left_of_imp fun hv => hv ▸ hw]
  rw [h.lookup_eq_some_iff, hmem]

/-- Nothing is added for a text that the engine does not compile. -/
theorem Keeps.concat_of_unreadable (h : Keeps entries written) (hread : engine.compileWhole w = .error fault) :
    Keeps entries (written ++ [w]) := by
  refine ⟨h.nodup, fun v p => ?_⟩
  rw [h.lookup_eq_some_iff, List.mem_append, List.mem_singleton, or_and_right]
  refine (or_iff_left fun hv => ?_).symm
  rw [hv.1, hread] at hv
  exact absurd hv.2 nofun

theorem Keeps.concat_of_new (h : Keeps entries written) (hw : w ∉ written)
    (hread : engine.compileWhole w = .ok p) : Keeps ((w, p) :: entries) (written ++ [w]) := by
  have hkey : w ∉ entries.map Prod.fst := fun hmem => hw (h.mem_keys_iff.1 hmem).1
  refine ⟨List.nodup_cons.2 ⟨hkey, h.nodup⟩, fun v q => ?_⟩
  rw [List.lookup_cons]
  by_cases hv : v = w
  · subst hv
    simp [hread]
  · have hne : (v == w) = false := by simpa using hv
    simp [hne, hv, h.lookup_eq_some_iff]

/-! ### What is remembered of the warnings -/

/-- The key of the warning about a fault. -/
def complaintKey (fault : Text) : Text :=
  WarningLog.key "Selectors".toList (complaint fault)

/-- Since the warnings were last forgotten, the faults of the texts were warned about. -/
structure Recalls (engine : Engine) (warnings : WarningLog) (current : List Text) : Prop where
  nodup : warnings.seen.Nodup
  mem_iff : ∀ k, k ∈ warnings.seen ↔ ∃ fault ∈ faults engine current, complaintKey fault = k

theorem complaintKey_injective : Function.Injective complaintKey := by
  intro f g h
  have hcomplaint : complaint f = complaint g := List.append_cancel_left h
  exact List.append_cancel_left hcomplaint

theorem Recalls.length_eq (h : Recalls engine warnings current) :
    warnings.seen.length = (faults engine current).length := by
  have hnodup : ((faults engine current).map complaintKey).Nodup :=
    (List.nodup_dedup _).map complaintKey_injective
  have hperm : warnings.seen.Perm ((faults engine current).map complaintKey) := by
    rw [List.perm_ext_iff_of_nodup h.nodup hnodup]
    intro k
    rw [h.mem_iff, List.mem_map]
  rw [hperm.length_eq, List.length_map]

theorem mem_faults_concat :
    fault ∈ faults engine (texts ++ [w]) ↔ fault ∈ faults engine texts ∨ engine.compileWhole w = .error fault := by
  simp only [mem_faults, List.mem_append, List.mem_singleton, or_and_right, exists_or, exists_eq_left]

theorem Recalls.concat_of_readable (h : Recalls engine warnings current) (hread : engine.compileWhole w = .ok p) :
    Recalls engine warnings (current ++ [w]) := by
  refine ⟨h.nodup, fun k => ?_⟩
  simp only [h.mem_iff, mem_faults_concat, hread, reduceCtorEq, or_false]

theorem Recalls.concat_of_unreadable (h : Recalls engine warnings current)
    (hread : engine.compileWhole w = .error fault) :
    Recalls engine (warnings.warn "Selectors".toList (complaint fault)) (current ++ [w]) := by
  refine ⟨WarningLog.nodup_seen_warn h.nodup, fun k => ?_⟩
  simp only [WarningLog.mem_seen_warn, h.mem_iff, mem_faults_concat, hread, Except.error.injEq, or_and_right,
    exists_or, exists_eq_left']
  rw [or_comm, eq_comm (a := k)]
  rfl

/-! ### Look-ups -/

/-- What a cache holds after the texts `written` were looked up, those of `current` since the last clearing. -/
structure Reflects (cache : PatternCache engine) (written current : List Text) : Prop where
  keeps : Keeps cache.entries written
  recalls : Recalls engine cache.warnings current

/-- A look-up finds a pattern that is kept, compiles and keeps a new one, or warns. -/
theorem find_cases (cache : PatternCache engine) (w : Text) :
    (∃ p, cache.entries.lookup w = some p ∧ cache.find w = (some p, cache)) ∨
      (∃ p, cache.entries.lookup w = none ∧ engine.compileWhole w = .ok p ∧
        cache.find w = (some p, { cache with entries := (w, p) :: cache.entries })) ∨
      ∃ fault, engine.compileWhole w = .error fault ∧ cache.find w =
        (none, { cache with warnings := cache.warnings.warn "Selectors".toList (complaint fault) }) := by
  cases hlookup : cache.entries.lookup w with
  | some p => exact .inl ⟨p, rfl, by simp only [find, hlookup]⟩
  | none =>
    cases hread : engine.compileWhole w with
    | ok p => exact .inr (.inl ⟨p, rfl, rfl, by simp only [find, hlookup, hread]⟩)
    | error fault => exact .inr (.inr ⟨fault, rfl, by simp only [find, hlookup, hread]⟩)

/-- A readable text that was looked up is kept. -/
theorem Keeps.not_mem_of_lookup_eq_none (h : Keeps entries written) (hlookup : entries.lookup w = none)
    (hread : engine.compileWhole w = .ok p) : w ∉ written := by
  intro hw
  rw [(h.lookup_eq_some_iff w p).2 ⟨hw, hread⟩] at hlookup
  exact absurd hlookup nofun

theorem Reflects.find (h : Reflects cache written current) (w : Text) :
    Reflects (cache.find w).2 (written ++ [w]) (current ++ [w]) := by
  obtain ⟨p, hlookup, hfind⟩ | ⟨p, hlookup, hread, hfind⟩ | ⟨fault, hread, hfind⟩ := find_cases cache w
  · obtain ⟨hw, hread⟩ := (h.keeps.lookup_eq_some_iff w p).1 hlookup
    rw [hfind]
    exact ⟨h.keeps.concat_of_known hw, h.recalls.concat_of_readable hread⟩
  · have hw := h.keeps.not_mem_of_lookup_eq_none hlookup hread
    rw [hfind]
    exact ⟨h.keeps.concat_of_new hw hread, h.recalls.concat_of_readable hread⟩
  · rw [hfind]
    exact ⟨h.keeps.concat_of_unreadable hread, h.recalls.concat_of_unreadable hread⟩

theorem Keeps.find_fst (h : Keeps cache.entries written) (w : Text) :
    (cache.find w).1 = (engine.compileWhole w).toOption := by
  obtain ⟨p, hlookup, hfind⟩ | ⟨p, -, hread, hfind⟩ | ⟨fault, hread, hfind⟩ := find_cases cache w
  · have hread := ((h.lookup_eq_some_iff w p).1 hlookup).2
    rw [hfind, hread]
    rfl
  · rw [hfind, hread]
    rfl
  · rw [hfind, hread]
    rfl

/-- A look-up prints a warning and remembers it, or it does neither. -/
theorem length_printed_find (cache : PatternCache engine) (w : Text) :
    (cache.find w).2.warnings.printed.length + cache.warnings.seen.length =
      cache.warnings.printed.length + (cache.find w).2.warnings.seen.length := by
  obtain ⟨p, -, hfind⟩ | ⟨p, -, -, hfind⟩ | ⟨fault, -, hfind⟩ := find_cases cache w
  · rw [hfind]
  · rw [hfind]
  · rw [hfind]
    exact WarningLog.length_printed_warn

theorem size_le_size_find (cache : PatternCache engine) (w : Text) : cache.size ≤ (cache.find w).2.size := by
  obtain ⟨p, -, hfind⟩ | ⟨p, -, -, hfind⟩ | ⟨fault, -, hfind⟩ := find_cases cache w
  · rw [hfind]
  · rw [hfind]
    exact Nat.le_succ _
  · rw [hfind]
    exact Nat.le_refl _

/-- Looks texts up one after the other. -/
def lookUpAll (cache : PatternCache engine) (texts : List Text) : PatternCache engine :=
  texts.foldl (fun cache w => (cache.find w).2) cache

theorem lookUpAll_append (cache : PatternCache engine) (s t : List Text) :
    cache.lookUpAll (s ++ t) = (cache.lookUpAll s).lookUpAll t :=
  List.foldl_append

theorem lookUpAll_cons (cache : PatternCache engine) (w : Text) (t : List Text) :
    cache.lookUpAll (w :: t) = (cache.find w).2.lookUpAll t := rfl

theorem Reflects.lookUpAll (h : Reflects cache written current) (texts : List Text) :
    Reflects (cache.lookUpAll texts) (written ++ texts) (current ++ texts) := by
  induction texts generalizing cache written current with
  | nil => simpa [PatternCache.lookUpAll] using h
  | cons w texts ih =>
    rw [lookUpAll_cons]
    simpa using ih (h.find w)

theorem length_printed_lookUpAll (cache : PatternCache engine) (texts : List Text) :
    (cache.lookUpAll texts).warnings.printed.length + cache.warnings.seen.length =
      cache.warnings.printed.length + (cache.lookUpAll texts).warnings.seen.length := by
  induction texts generalizing cache with
  | nil => rfl
  | cons w texts ih =>
    have hone := length_printed_find cache w
    have hrest := ih (cache.find w).2
    rw [lookUpAll_cons]
    omega

theorem size_le_size_lookUpAll (cache : PatternCache engine) (texts : List Text) :
    cache.size ≤ (cache.lookUpAll texts).size := by
  induction texts generalizing cache with
  | nil => exact Nat.le_refl _
  | cons w texts ih => exact Nat.le_trans (size_le_size_find cache w) (ih _)

/-! ### Steps -/

theorem matchesWhole_fst (cache : PatternCache engine) (written candidate : Text) :
    (cache.matchesWhole written candidate).1 = (cache.find written).1.any (engine.isMatch · candidate) := by
  unfold matchesWhole
  rcases cache.find written with ⟨_ | p, cache'⟩ <;> rfl

theorem matchesWhole_snd (cache : PatternCache engine) (written candidate : Text) :
    (cache.matchesWhole written candidate).2 = (cache.find written).2 := by
  unfold matchesWhole
  rcases cache.find written with ⟨_ | p, cache'⟩ <;> rfl

theorem elementVocabulary?_fst (cache : PatternCache engine) (name : Text) :
    (cache.elementVocabulary? name).1 = (Vocabulary.listedElement? name).or
      (if (cache.matchesWhole customElementName name).1 then some .customElement else none) := by
  unfold elementVocabulary?
  cases Vocabulary.listedElement? name with
  | some v => rfl
  | none => rcases cache.matchesWhole customElementName name with ⟨_ | _, cache'⟩ <;> rfl

theorem elementVocabulary?_snd (cache : PatternCache engine) (name : Text) :
    (cache.elementVocabulary? name).2 = cache.lookUpAll (Step.elementVocabulary name).looksUp := by
  simp only [elementVocabulary?, Step.looksUp]
  cases Vocabulary.listedElement? name with
  | some v => rfl
  | none =>
    have hsnd := matchesWhole_snd cache customElementName name
    rcases hmatch : cache.matchesWhole customElementName name with ⟨_ | _, cache'⟩ <;> rw [hmatch] at hsnd <;>
      exact hsnd

theorem Keeps.matchesWhole_fst (h : Keeps cache.entries written) (w candidate : Text) :
    (cache.matchesWhole w candidate).1 = matchesAfresh engine w candidate := by
  rw [PatternCache.matchesWhole_fst, h.find_fst, matchesAfresh]
  cases engine.compileWhole w <;> rfl

theorem take_fst (h : Keeps cache.entries written) (s : Step) : (cache.take s).1 = s.answer engine := by
  cases s with
  | matchWhole w candidate => exact congrArg Answer.verdict (h.matchesWhole_fst w candidate)
  | elementVocabulary name =>
    rw [Step.answer, ← h.matchesWhole_fst, ← elementVocabulary?_fst]
    rfl
  | matchProduction p candidate => rfl
  | clearWarnings => rfl

theorem take_snd {s : Step} (hs : s ≠ .clearWarnings) : (cache.take s).2 = cache.lookUpAll s.looksUp := by
  cases s with
  | matchWhole w candidate => exact matchesWhole_snd cache w candidate
  | elementVocabulary name => exact elementVocabulary?_snd cache name
  | matchProduction p candidate => rfl
  | clearWarnings => exact absurd rfl hs

theorem take_clearWarnings (cache : PatternCache engine) : (cache.take .clearWarnings).2 = cache.clearWarnings := rfl

theorem printed_clearWarnings (cache : PatternCache engine) :
    cache.clearWarnings.warnings.printed = cache.warnings.printed := rfl

theorem size_le_size_take (cache : PatternCache engine) (s : Step) : cache.size ≤ (cache.take s).2.size := by
  by_cases hs : s = .clearWarnings
  · subst hs
    exact Nat.le_refl _
  · rw [take_snd hs]
    exact size_le_size_lookUpAll ..

/-! ### Runs -/

theorem run_append (cache : PatternCache engine) (before after : List Step) :
    run cache (before ++ after) = run (run cache before) after :=
  List.foldl_append

theorem run_cons (cache : PatternCache engine) (s : Step) (steps : List Step) :
    run cache (s :: steps) = run (cache.take s).2 steps := rfl

/-- As long as no warnings are forgotten, only the look-ups of a session matter. -/
theorem run_eq_lookUpAll (cache : PatternCache engine) {stretch : List Step} (h : .clearWarnings ∉ stretch) :
    run cache stretch = cache.lookUpAll (stretch.flatMap Step.looksUp) := by
  induction stretch generalizing cache with
  | nil => rfl
  | cons s stretch ih =>
    rw [List.mem_cons, not_or] at h
    rw [run_cons, take_snd (Ne.symm h.1), ih _ h.2, List.flatMap_cons, lookUpAll_append]

theorem Recalls.clear (warnings : WarningLog) : Recalls engine warnings.clear [] :=
  ⟨List.nodup_nil, fun k => by simp [WarningLog.clear, faults]⟩

theorem printed_empty : (empty : PatternCache engine).warnings.printed = [] := rfl

theorem reflects_empty : Reflects (empty : PatternCache engine) [] [] :=
  ⟨⟨List.nodup_nil, fun w p => by simp [empty]⟩, List.nodup_nil, fun k => by simp [empty, WarningLog.empty, faults]⟩

theorem Reflects.clearWarnings (h : Reflects cache written current) : Reflects cache.clearWarnings written [] :=
  ⟨h.keeps, .clear _⟩

theorem Reflects.exists_take (h : Reflects cache written current) (s : Step) :
    ∃ current', Reflects (cache.take s).2 (written ++ s.looksUp) current' := by
  by_cases hs : s = .clearWarnings
  · subst hs
    rw [Step.looksUp, List.append_nil]
    exact ⟨[], h.clearWarnings⟩
  · rw [take_snd hs]
    exact ⟨_, h.lookUpAll _⟩

theorem Reflects.exists_run (h : Reflects cache written current) (steps : List Step) :
    ∃ current', Reflects (run cache steps) (written ++ steps.flatMap Step.looksUp) current' := by
  induction steps generalizing cache written current with
  | nil => exact ⟨current, by simpa [run] using h⟩
  | cons s steps ih =>
    obtain ⟨current', hstep⟩ := h.exists_take s
    rw [run_cons, List.flatMap_cons, ← List.append_assoc]
    exact ih hstep

/-- The number of faults in the texts that a stretch between two clearings looks up. -/
def complaints (engine : Engine) (stretch : List Step) : Nat :=
  (faults engine (stretch.flatMap Step.looksUp)).length

theorem Reflects.length_printed_stretch {stretch : List Step} (h : Reflects cache written [])
    (hstretch : .clearWarnings ∉ stretch) :
    (run cache stretch).warnings.printed.length = cache.warnings.printed.length + complaints engine stretch := by
  have hseen : cache.warnings.seen.length = 0 := h.recalls.length_eq
  have hprinted := length_printed_lookUpAll cache (stretch.flatMap Step.looksUp)
  have hafter := (h.lookUpAll (stretch.flatMap Step.looksUp)).recalls.length_eq
  rw [List.nil_append] at hafter
  rw [run_eq_lookUpAll cache hstretch, complaints, ← hafter]
  omega

/-- Warnings are counted anew in each stretch between two clearings. -/
theorem Reflects.length_printed_run (h : Reflects cache written []) (steps : List Step) :
    (run cache steps).warnings.printed.length =
      cache.warnings.printed.length + ((steps.splitOn .clearWarnings).map (complaints engine)).sum := by
  induction hlength : steps.length using Nat.strong_induction_on generalizing steps cache written with
  | _ n ih =>
    by_cases hclear : .clearWarnings ∈ steps
    · -- the first stretch, and then the others as a session of their own
      obtain ⟨stretch, rest, rfl, hstretch⟩ := List.eq_append_cons_of_mem hclear
      have hshorter : rest.length < n := by simp [← hlength]; omega
      have hone := h.length_printed_stretch hstretch
      rw [run_eq_lookUpAll cache hstretch] at hone
      have hreflects := (h.lookUpAll (stretch.flatMap Step.looksUp)).clearWarnings
      have hrest := ih rest.length hshorter hreflects rest rfl
      rw [printed_clearWarnings, hone] at hrest
      rw [List.splitOn_append_cons_self_of_not_mem hstretch, List.map_cons, List.sum_cons, run_append, run_cons,
        run_eq_lookUpAll cache hstretch, take_clearWarnings, hrest, Nat.add_assoc]
    · rw [List.splitOn_eq_singleton hclear, h.length_printed_stretch hclear, List.map_singleton, List.sum_singleton]

theorem mem_of_mem_splitOn {steps stretch : List Step} {s : Step} (hstretch : stretch ∈ steps.splitOn .clearWarnings)
    (hs : s ∈ stretch) : s ∈ steps := by
  obtain ⟨i, hi⟩ := List.mem_iff_getElem?.1 hstretch
  have hjoin : [Step.clearWarnings].intercalate (steps.splitOn .clearWarnings) = steps :=
    List.intercalate_splitOn _
  have hmem : stretch ∈ (steps.splitOn .clearWarnings).intersperse [.clearWarnings] :=
    List.mem_of_getElem? (List.getElem?_intersperse_two_mul.trans hi)
  rw [← hjoin, List.intercalate]
  exact List.mem_flatten.2 ⟨stretch, hmem, hs⟩

theorem complaints_of_tellsApart {steps stretch : List Step} (h : TellsApart engine (steps.flatMap Step.looksUp))
    (hstretch : stretch ∈ steps.splitOn .clearWarnings) :
    complaints engine stretch = (unreadable engine (stretch.flatMap Step.looksUp)).length := by
  have hsub : stretch.flatMap Step.looksUp ⊆ steps.flatMap Step.looksUp := by
    intro w hw
    obtain ⟨s, hs, hw⟩ := List.mem_flatMap.1 hw
    exact List.mem_flatMap.2 ⟨s, mem_of_mem_splitOn hstretch hs, hw⟩
  exact length_faults fun s hs t ht => h s (hsub hs) t (hsub ht)

/-- The patterns that are kept show in no answer, whatever the engine.  As many are kept as readable texts were looked
up, and a warning is printed for each unreadable one looked up between two clearings, if the engine tells them apart. -/
theorem take_run_empty {steps : List Step} (h : TellsApart engine (steps.flatMap Step.looksUp)) :
    let cache := run (empty : PatternCache engine) steps
    (∀ s, (cache.take s).1 = s.answer engine) ∧
      cache.size = (readable engine (steps.flatMap Step.looksUp)).length ∧
      (∀ s, cache.size ≤ (cache.take s).2.size) ∧
      cache.warnings.printed.length = ((steps.splitOn .clearWarnings).map fun stretch =>
        (unreadable engine (stretch.flatMap Step.looksUp)).length).sum := by
  have hempty : Reflects (empty : PatternCache engine) [] [] := reflects_empty
  obtain ⟨current, hreflects⟩ := hempty.exists_run steps
  have hprinted := hempty.length_printed_run steps
  rw [printed_empty, List.length_nil, Nat.zero_add,
    List.map_congr_left fun stretch hstretch => complaints_of_tellsApart h hstretch] at hprinted
  exact ⟨take_fst hreflects.keeps, hreflects.keeps.length_eq, size_le_size_take _, hprinted⟩

/-- A reader that describes all texts differently tells them apart. -/
theorem tellsApart_ofReader {describe : Text → Text} (h : Function.Injective describe) (texts : List Text) :
    TellsApart (.ofReader describe) texts := by
  have hdescribe (w fault : Text) (hw : (Engine.ofReader describe).compileWhole w = .error fault) :
      describe ("^(?:".toList ++ w ++ ")$".toList) = fault := by
    simp only [Engine.compileWhole, Engine.ofReader] at hw
    split at hw
    · exact absurd hw nofun
    · exact Except.error.inj hw
  intro s _ t _ fault hs ht
  have hwhole := h ((hdescribe s fault hs).trans (hdescribe t fault ht).symm)
  exact List.append_cancel_left (List.append_cancel_right hwhole)

/-- How a pattern between the ends of the text is described if it has a group that is not closed: with a sign below the
parenthesis that has no partner. -/
def describeUnclosed (whole : Text) : Text :=
  "regex parse error:\n    ".toList ++ whole ++ "\n     ^\nerror: unclosed group".toList

theorem describeUnclosed_injective : Function.Injective describeUnclosed := fun _ _ h =>
  List.append_cancel_left (List.append_cancel_right h)

/-- Two groups that are not closed; one of them is looked up again, before and after a clearing. -/
theorem take_run_of_unclosed :
    let engine : Engine := .ofReader describeUnclosed
    let steps : List Step := [.matchWhole "(unclosed".toList "(unclosed".toList, .matchWhole "a+".toList "aa".toList,
      .elementVocabulary "A".toList, .matchWhole "(x".toList [], .matchWhole "(unclosed".toList [], .clearWarnings,
      .matchWhole "(unclosed".toList [], .matchWhole customElementName "my-tag".toList,
      .matchProduction .ident "a".toList, .matchWhole "a+".toList []]
    let cache := run (empty : PatternCache engine) steps
    TellsApart engine (steps.flatMap Step.looksUp) ∧ (∀ s, (cache.take s).1 = s.answer engine) ∧ cache.size = 2 ∧
      (∀ s, cache.size ≤ (cache.take s).2.size) ∧ cache.warnings.printed.length = 3 := by
  intro engine steps
  have hapart : TellsApart engine (steps.flatMap Step.looksUp) := tellsApart_ofReader describeUnclosed_injective _
  obtain ⟨hanswers, hsize, hmonotone, hprinted⟩ := take_run_empty hapart
  have htwo : (readable engine (steps.flatMap Step.looksUp)).length = 2 := by decide +kernel
  have hthree : ((steps.splitOn .clearWarnings).map fun stretch =>
      (unreadable engine (stretch.flatMap Step.looksUp)).length).sum = 3 := by decide +kernel
  exact ⟨hapart, hanswers, hsize.trans htwo, hmonotone, hprinted.trans hthree⟩

end SelectorSyntax.PatternCache
