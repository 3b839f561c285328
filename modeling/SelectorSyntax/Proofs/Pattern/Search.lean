import SelectorSyntax.Proofs.Pattern.Ways

/-!
# The search finds the first way

`Pattern.lead?` runs all threads through the text side by side and drops threads as it goes.  It finds what
backtracking would find first: `lead?_eq_head?_ways`.

* (one place) `outcomes` says what the ways of a pattern do before they read the next character, up to ways that are
  dropped.  A dropped way stands at the same spot as an earlier one, so it cannot succeed where that one failed.
  This is why the lists are compared through the first success of a continuation (`Uniform`, `findSome?_ways`) and
  are not claimed to be equal.
* (one character) reading a character keeps the first success of the threads (`findSome?_advance`), and so does
  dropping threads with the same remaining patterns (`findSome?_distinct`).
* (the whole text) by induction on the text, `run_eq`.
-/

namespace SelectorSyntax

open Pattern Thread

variable {α : Type}

/-- A continuation whose success depends on the spot alone. -/
def Uniform (k : Found → Option α) : Prop :=
  ∀ f g : Found, f.SameSpot g → (k f).isSome = (k g).isSome

/-- What a continuation makes of an outcome at the place that `f` has reached. -/
def Outcome.resolve (f : Found) (k : Found → Option α) : Outcome → Option α
  | pass marks => k ⟨noteAll marks f.trail, f.rest⟩
  | move marks ps =>
    match f.rest with
    | [] => none
    | c :: t => (waysOfAll ps ⟨.read c :: noteAll marks f.trail, t⟩).findSome? k

/-! ### First successes -/

theorem findSome?_flatMap {β γ : Type} (l : List β) (next : β → List γ) (k : γ → Option α) :
    (l.flatMap next).findSome? k = l.findSome? fun b => (next b).findSome? k := by
  induction l with
  | nil => rfl
  | cons b l ih =>
    rw [List.flatMap_cons, List.findSome?_append, ih, List.findSome?_cons]
    cases (next b).findSome? k <;> rfl

private theorem findSome?_filter (l : List Found) (P : Found → Bool) (k : Found → Option α) :
    (l.filter P).findSome? k = l.findSome? fun f => if P f then k f else none := by
  induction l with
  | nil => rfl
  | cons f l ih => cases h : P f <;> simp [h, ih, List.findSome?_cons]

theorem findSome?_congr {β : Type} {l : List β} {k k' : β → Option α} (h : ∀ b ∈ l, k b = k' b) :
    l.findSome? k = l.findSome? k' := by
  induction l with
  | nil => rfl
  | cons b l ih =>
    rw [List.findSome?_cons, List.findSome?_cons, h b (by simp), ih fun c hc => h c (by simp [hc])]

private theorem isSome_findSome?_congr {k : Found → Option α} (hk : Uniform k) {l m : List Found}
    (h : List.Forall₂ Found.SameSpot l m) : (l.findSome? k).isSome = (m.findSome? k).isSome := by
  induction h with
  | nil => rfl
  | cons hfg _ ih =>
    have := hk _ _ hfg
    rw [List.findSome?_cons, List.findSome?_cons]
    split <;> split <;> simp_all

theorem Uniform.ways {k : Found → Option α} (hk : Uniform k) (p : Pattern) :
    Uniform fun f => (p.ways f).findSome? k :=
  fun _ _ h => isSome_findSome?_congr hk (ways_sameSpot p h)

theorem Uniform.repeated {k : Found → Option α} (hk : Uniform k) (p : Pattern) (greedy : Bool) (least : Nat)
    (most : Option Nat) : Uniform fun f => (Pattern.repeated Found.left p.ways greedy least most f).findSome? k :=
  hk.ways (.rounds greedy least most p)

theorem Uniform.waysOfAll {k : Found → Option α} (hk : Uniform k) (ps : List Pattern) :
    Uniform fun f => (waysOfAll ps f).findSome? k := by
  induction ps with
  | nil =>
    intro f g h
    simpa [Pattern.waysOfAll] using hk f g h
  | cons p ps ih =>
    intro f g h
    simpa only [Pattern.waysOfAll, findSome?_flatMap] using ih.ways p f g h

/-- The continuation that also asks for something to be read. -/
theorem Uniform.past {k : Found → Option α} (hk : Uniform k) (f : Found) :
    Uniform fun g => if isPast Found.left f g then k g else none := by
  intro g g' hg
  simp only [isPast_congr ⟨rfl, rfl⟩ hg (f := f) (g := f)]
  split
  · exact hk g g' hg
  · rfl

theorem uniform_some : Uniform (some : Found → Option Found) :=
  fun _ _ _ => rfl

/-! ### One place -/

theorem noteAll_append (ms ns : List Mark) (trail : List Event) :
    noteAll (ms ++ ns) trail = noteAll ns (noteAll ms trail) := by
  simp [noteAll]

/-- The same match after some notes. -/
def Found.noted (f : Found) (marks : List Mark) : Found :=
  ⟨noteAll marks f.trail, f.rest⟩

theorem Found.noted_sameSpot (f : Found) (ms ns : List Mark) : (f.noted ms).SameSpot (f.noted ns) := by
  simp [Found.noted, Found.SameSpot]

theorem Found.place_noted (f : Found) (marks : List Mark) : (f.noted marks).place = f.place := by
  simp [Found.noted, Found.place]

theorem Outcome.resolve_after (f : Found) (k : Found → Option α) (marks : List Mark) (o : Outcome) :
    (o.after marks).resolve f k = o.resolve (f.noted marks) k := by
  cases o <;> simp [after, resolve, Found.noted, noteAll_append]

/-- The outcomes of two patterns in a row, where `second` are those of the second one. -/
private theorem findSome?_andThen {f : Found} {k k' : Found → Option α} {l second : List Outcome}
    {following : List Pattern} (hk' : ∀ g, k' g = (waysOfAll following g).findSome? k)
    (hsecond : ∀ marks, (waysOfAll following (f.noted marks)).findSome? k =
      second.findSome? (Outcome.resolve (f.noted marks) k)) :
    l.findSome? (Outcome.resolve f k') =
      (Outcome.andThen l following fun _ => second).findSome? (Outcome.resolve f k) := by
  rw [Outcome.andThen, findSome?_flatMap]
  refine findSome?_congr fun o _ => ?_
  cases o with
  | pass marks =>
    have h : Outcome.resolve f k ∘ Outcome.after marks = Outcome.resolve (f.noted marks) k :=
      funext (Outcome.resolve_after f k marks)
    rw [List.findSome?_map, h, ← hsecond]
    exact hk' _
  | move marks ps =>
    simp only [Outcome.resolve, List.findSome?_singleton]
    cases f.rest with
    | nil => rfl
    | cons c t =>
      simp only [waysOfAll_append, findSome?_flatMap]
      exact findSome?_congr fun g _ => hk' g

/-- A pass that is left out would not succeed where an earlier pass failed. -/
private theorem findSome?_orElse {f : Found} {k : Found → Option α} (hk : Uniform k) (l m : List Outcome) :
    (Outcome.orElse l m).findSome? (Outcome.resolve f k) = (l ++ m).findSome? (Outcome.resolve f k) := by
  rw [Outcome.orElse]
  split
  · rename_i hpass
    obtain ⟨o, ho, hop⟩ := List.any_eq_true.1 hpass
    rw [List.findSome?_append, List.findSome?_append]
    cases hl : l.findSome? (Outcome.resolve f k) with
    | some a => rfl
    | none =>
      -- the pass of `l` has failed, so each pass of `m` fails too
      have hfail : ∀ marks, k (f.noted marks) = none := by
        intro marks
        have hnone := List.findSome?_eq_none_iff.1 hl o ho
        cases o with
        | move ms ps => cases hop
        | pass ms =>
          have hsome := hk _ _ (f.noted_sameSpot ms marks)
          rw [show k (f.noted ms) = none from hnone] at hsome
          simpa using hsome.symm
      clear hl hpass
      induction m with
      | nil => rfl
      | cons o' m ih =>
        cases o' with
        | pass ms =>
          have hpass : Outcome.resolve f k (.pass ms) = none := hfail ms
          simpa [List.findSome?_cons, Outcome.isPass, hpass] using ih
        | move ms ps =>
          simp only [List.filter_cons, Outcome.isPass, Bool.not_false, ↓reduceIte, List.findSome?_cons]
          cases Outcome.resolve f k (.move ms ps) with
          | some a => rfl
          | none => exact ih
  · rfl

/-- All ways after a character that is read are past it. -/
private theorem isPast_of_read {f g : Found} {c : Char} {t : Text} {trail : List Event} {ps : List Pattern}
    (hrest : f.rest = c :: t) (hg : g ∈ waysOfAll ps ⟨trail, t⟩) : isPast Found.left f g = true := by
  obtain ⟨x, hx⟩ := exists_read_of_mem_waysOfAll hg
  have hlen := congrArg List.length hx.1
  simp only [List.length_append] at hlen
  simp only [isPast, Found.left, hrest, List.length_cons, decide_eq_true_eq]
  omega

private theorem resolve_move_append {f : Found} {k k' : Found → Option α} (marks : List Mark) (ps qs : List Pattern)
    (h : ∀ g, isPast Found.left f g → (waysOfAll qs g).findSome? k = k' g) :
    Outcome.resolve f k (.move marks (ps ++ qs)) = Outcome.resolve f k' (.move marks ps) := by
  simp only [Outcome.resolve]
  cases hrest : f.rest with
  | nil => rfl
  | cons c t =>
    simp only [waysOfAll_append, findSome?_flatMap]
    exact findSome?_congr fun g hg => h g (isPast_of_read hrest hg)

/-- The outcomes that read, each with what follows it. -/
private theorem findSome?_moves (f : Found) (k : Found → Option α) (l : List Outcome) (following : List Pattern) :
    (Outcome.moves l following).findSome? (Outcome.resolve f k) =
      l.findSome? (Outcome.resolve f fun g =>
        if isPast Found.left f g then (waysOfAll following g).findSome? k else none) := by
  induction l with
  | nil => rfl
  | cons o l ih =>
    cases o with
    | pass marks => simpa [Outcome.moves, Outcome.resolve, isPast, Found.left] using ih
    | move marks ps =>
      have hmove : Outcome.resolve f k (.move marks (ps ++ following)) = Outcome.resolve f
          (fun g => if isPast Found.left f g then (waysOfAll following g).findSome? k else none) (.move marks ps) :=
        resolve_move_append marks ps following fun g hg => by simp [hg]
      simp only [Outcome.moves, List.filterMap_cons, List.findSome?_cons, hmove] at ih ⊢
      rw [ih]

/-- Whether some way reads nothing is seen from the outcomes. -/
private theorem any_isPass {f : Found} {l : List Found} {m : List Outcome}
    (h : ∀ k : Found → Option Unit, Uniform k → l.findSome? k = m.findSome? (Outcome.resolve f k)) :
    m.any Outcome.isPass = l.any (!isPast Found.left f ·) := by
  -- the continuation that succeeds where nothing was read
  let k : Found → Option Unit := fun g => if isPast Found.left f g then none else some ()
  have hk : Uniform k := by
    intro g g' hg
    simp only [k, isPast_congr ⟨rfl, rfl⟩ hg (f := f) (g := f)]
  have hl : (l.findSome? k).isSome = l.any (!isPast Found.left f ·) := by
    clear h
    induction l with
    | nil => rfl
    | cons g l ih => cases hg : isPast Found.left f g <;> simp [k, hg] at ih ⊢; exact ih
  have hm : (m.findSome? (Outcome.resolve f k)).isSome = m.any Outcome.isPass := by
    clear h
    induction m with
    | nil => rfl
    | cons o m ih =>
      cases o with
      | pass marks => simp [k, Outcome.resolve, isPast, Found.left, Outcome.isPass]
      | move marks ps =>
        have hnone : Outcome.resolve f k (.move marks ps) = none := by
          simp only [Outcome.resolve]
          cases hrest : f.rest with
          | nil => rfl
          | cons c t =>
            refine List.findSome?_eq_none_iff.2 fun g hg => ?_
            simp [k, isPast_of_read hrest hg]
        simpa [List.findSome?_cons, hnone, Outcome.isPass] using ih
  rw [← hl, ← hm, h k hk]

/-- At one place: the ways of a pattern succeed as its outcomes do. -/
theorem findSome?_ways (p : Pattern) {f : Found} {k : Found → Option α} (hk : Uniform k) :
    (p.ways f).findSome? k = (p.outcomes f.place).findSome? (Outcome.resolve f k) := by
  induction p generalizing α f k with
  | empty => simp [ways, outcomes, Outcome.resolve, noteAll]
  | chars set =>
    obtain ⟨trail, rest⟩ := f
    cases rest with
    | nil => rfl
    | cons c t =>
      simp only [ways, outcomes, Found.place, List.head?_cons]
      split <;> simp [Outcome.resolve, noteAll, waysOfAll]
  | seq p q ihp ihq =>
    have hq : ∀ g, (q.ways g).findSome? k = (waysOfAll [q] g).findSome? k := by simp [waysOfAll]
    rw [ways, findSome?_flatMap, ihp (hk.ways q), outcomes]
    refine findSome?_andThen hq fun marks => ?_
    rw [← hq, ihq hk, Found.place_noted]
  | alt p q ihp ihq =>
    rw [ways, outcomes, findSome?_orElse hk, List.findSome?_append, List.findSome?_append, ihp hk, ihq hk]
  | rounds greedy least most p ih =>
    have hreq : (if (p.outcomes f.place).any Outcome.isPass then 0 else least) =
        required Found.left p.ways least f := by
      rw [any_isPass fun k hk => ih hk, required]
    -- a round is taken only if it reads, on both sides
    have hmore : (moreRounds Found.left p.ways greedy least most f).findSome? k =
        (Outcome.moves (p.outcomes f.place)
          [.rounds greedy (required Found.left p.ways least f - 1) (most.map (· - 1)) p]).findSome?
            (Outcome.resolve f k) := by
      rw [moreRounds, findSome?_flatMap, findSome?_filter, ih ((hk.repeated p _ _ _).past f), findSome?_moves]
      simp [waysOfAll, ways]
    have hstop : Outcome.resolve f k (.pass []) = k f := rfl
    rw [ways, repeated_eq, outcomes]
    simp only [hreq]
    split
    · simp [hstop]
    · split
      · exact hmore
      · split <;> simp [List.findSome?_append, List.findSome?_cons, hmore, hstop]
  | mark m => simp [ways, outcomes, Outcome.resolve, noteAll]
  | requires condition =>
    simp only [ways, outcomes]
    split <;> simp [Outcome.resolve, noteAll]

theorem findSome?_waysOfAll (ps : List Pattern) {f : Found} {k : Found → Option α} (hk : Uniform k) :
    (waysOfAll ps f).findSome? k = (outcomesOfAll f.place ps).findSome? (Outcome.resolve f k) := by
  induction ps generalizing f with
  | nil => simp [waysOfAll, outcomesOfAll, Outcome.resolve, noteAll]
  | cons p ps ih =>
    rw [waysOfAll, findSome?_flatMap, findSome?_ways p (hk.waysOfAll ps), outcomesOfAll]
    refine findSome?_andThen (fun _ => rfl) fun marks => ?_
    rw [ih, Found.place_noted]

/-! ### One character -/

/-- The first match of a thread, before the given text. -/
def Thread.first? (text : Text) (t : Thread) : Option Found :=
  (waysOfAll t.remaining ⟨t.trail, text⟩).findSome? some

theorem Thread.isSome_first?_congr {t u : Thread} (text : Text)
    (hbefore : Event.lastRead t.trail = Event.lastRead u.trail) (hremaining : t.remaining = u.remaining) :
    (t.first? text).isSome = (u.first? text).isSome := by
  rw [first?, first?, hremaining]
  exact uniform_some.waysOfAll u.remaining _ _ ⟨hbefore, rfl⟩

private theorem findSome?_advanceBy (c : Char) (text : Text) (trail : List Event) (l : List Outcome) :
    l.findSome? (Outcome.resolve ⟨trail, c :: text⟩ some) =
      ((advanceBy c trail l).1.findSome? (first? text)).or ((advanceBy c trail l).2.map (⟨·, c :: text⟩)) := by
  induction l with
  | nil => rfl
  | cons o l ih =>
    cases o with
    | pass marks => simp [advanceBy, List.findSome?_cons, Outcome.resolve]
    | move marks ps =>
      simp only [advanceBy, List.findSome?_cons, ih]
      rw [show first? text ⟨ps, .read c :: noteAll marks trail⟩ =
        Outcome.resolve ⟨trail, c :: text⟩ some (.move marks ps) from rfl]
      cases Outcome.resolve ⟨trail, c :: text⟩ some (.move marks ps) <;> rfl

/-- Reading a character keeps the first success of the threads, which is that of a thread that goes on or else the
match that ended. -/
theorem findSome?_advance {before : Option Char} (c : Char) (text : Text) {threads : List Thread}
    (hbefore : ∀ t ∈ threads, Event.lastRead t.trail = before) :
    threads.findSome? (first? (c :: text)) =
      ((advance before c threads).1.findSome? (first? text)).or
        ((advance before c threads).2.map (⟨·, c :: text⟩)) := by
  induction threads with
  | nil => rfl
  | cons t ts ih =>
    have ht : first? (c :: text) t = (outcomesOfAll ⟨before, some c⟩ t.remaining).findSome?
        (Outcome.resolve ⟨t.trail, c :: text⟩ some) := by
      rw [first?, findSome?_waysOfAll _ uniform_some, Found.place, hbefore t (by simp)]
      rfl
    rw [findSome?_advanceBy] at ht
    have hts := ih fun u hu => hbefore u (by simp [hu])
    rw [List.findSome?_cons, ht, hts, advance]
    cases hby : advanceBy c t.trail (outcomesOfAll ⟨before, some c⟩ t.remaining) with
    | mk later ended =>
      cases ended with
      | some trail => cases later.findSome? (first? text) <;> simp
      | none =>
        simp only [Option.map_none, Option.or_none, List.findSome?_append]
        cases later.findSome? (first? text) <;> simp

private theorem lastRead_advanceBy (c : Char) (trail : List Event) (l : List Outcome) :
    ∀ t ∈ (advanceBy c trail l).1, Event.lastRead t.trail = some c := by
  induction l with
  | nil => simp [advanceBy]
  | cons o l ih =>
    cases o with
    | pass marks => simp [advanceBy]
    | move marks ps =>
      intro t ht
      rcases List.mem_cons.1 ht with rfl | ht
      · rfl
      · exact ih t ht

private theorem lastRead_advance (before : Option Char) (c : Char) (threads : List Thread) :
    ∀ t ∈ (advance before c threads).1, Event.lastRead t.trail = some c := by
  induction threads with
  | nil => simp [advance]
  | cons t ts ih =>
    intro u hu
    rw [advance] at hu
    cases hby : advanceBy c t.trail (outcomesOfAll ⟨before, some c⟩ t.remaining) with
    | mk later ended =>
      have hlater : ∀ v ∈ later, Event.lastRead v.trail = some c := by
        have := lastRead_advanceBy c t.trail (outcomesOfAll ⟨before, some c⟩ t.remaining)
        rwa [hby] at this
      rw [hby] at hu
      cases ended with
      | some trail => exact hlater u hu
      | none =>
        rcases List.mem_append.1 hu with hu | hu
        · exact hlater u hu
        · exact ih u hu

theorem mem_of_mem_distinct {seen : Trie Pattern} {threads : List Thread} {t : Thread}
    (h : t ∈ distinct seen threads) : t ∈ threads := by
  induction threads generalizing seen with
  | nil => exact h
  | cons u us ih =>
    rw [distinct] at h
    split at h
    · exact List.mem_cons_of_mem _ (ih h)
    · rcases List.mem_cons.1 h with rfl | h
      · simp
      · exact List.mem_cons_of_mem _ (ih h)

/-- Dropping threads keeps the first success, as long as every thread with `seen` remaining patterns fails. -/
theorem findSome?_distinct {before : Option Char} (text : Text) {seen : Trie Pattern} {threads : List Thread}
    (hbefore : ∀ t ∈ threads, Event.lastRead t.trail = before)
    (hseen : ∀ t : Thread, Event.lastRead t.trail = before → seen.contains t.remaining → t.first? text = none) :
    (distinct seen threads).findSome? (first? text) = threads.findSome? (first? text) := by
  induction threads generalizing seen with
  | nil => rfl
  | cons t ts ih =>
    have hts := fun u hu => hbefore u (List.mem_cons_of_mem t hu)
    have ht := hbefore t (by simp)
    rw [distinct]
    split
    · rename_i hmem
      rw [List.findSome?_cons, hseen t ht hmem]
      exact ih hts hseen
    · rw [List.findSome?_cons, List.findSome?_cons]
      cases hfirst : t.first? text with
      | some f => rfl
      | none =>
        -- now threads with the remaining patterns of `t` fail as well
        refine ih hts fun u hu hmem => ?_
        rw [Trie.contains_insert, Bool.or_eq_true, decide_eq_true_eq] at hmem
        rcases hmem with hrem | hmem
        · have hsome := isSome_first?_congr text (hu.trans ht.symm) hrem
          rw [hfirst] at hsome
          simpa using hsome
        · exact hseen u hu hmem

/-! ### The whole text -/

private theorem findSome?_finish {before : Option Char} {threads : List Thread}
    (hbefore : ∀ t ∈ threads, Event.lastRead t.trail = before) :
    threads.findSome? (first? []) = (finish before threads).map (⟨·, []⟩) := by
  induction threads with
  | nil => rfl
  | cons t ts ih =>
    have ht : first? [] t = ((outcomesOfAll ⟨before, none⟩ t.remaining).findSome? fun
        | .pass marks => some (noteAll marks t.trail)
        | .move .. => none).map (⟨·, []⟩) := by
      rw [first?, findSome?_waysOfAll _ uniform_some, Found.place, hbefore t (by simp)]
      simp only [List.head?_nil]
      induction outcomesOfAll ⟨before, none⟩ t.remaining with
      | nil => rfl
      | cons o l ih' =>
        cases o with
        | pass marks => simp [List.findSome?_cons, Outcome.resolve]
        | move marks ps => simpa [List.findSome?_cons, Outcome.resolve] using ih'
    rw [List.findSome?_cons, ht, ih fun u hu => hbefore u (by simp [hu]), finish, finish, List.findSome?_cons]
    generalize (outcomesOfAll ⟨before, none⟩ t.remaining).findSome? _ = o
    cases o <;> rfl

/-- A run finds the first success of its threads, or else what it had before. -/
theorem run_eq {before : Option Char} {threads : List Thread} (best : Option Found) (text : Text)
    (hbefore : ∀ t ∈ threads, Event.lastRead t.trail = before) :
    run before best threads text = (threads.findSome? (first? text)).or best := by
  induction text generalizing before best threads with
  | nil =>
    cases threads with
    | nil => rfl
    | cons t ts => rw [run, findSome?_finish hbefore]; simp
  | cons c text ih =>
    cases threads with
    | nil => rfl
    | cons t ts =>
      have hlater := lastRead_advance before c (t :: ts)
      have hstep : run before best (t :: ts) (c :: text) =
          run (some c) (((advance before c (t :: ts)).2.map (⟨·, c :: text⟩)).or best)
            (distinct .nothing (advance before c (t :: ts)).1) text := rfl
      rw [findSome?_advance c text hbefore, hstep, ih _ fun u hu => hlater u (mem_of_mem_distinct hu),
        findSome?_distinct text hlater (fun u _ h => by simp [Trie.contains] at h), Option.or_assoc]

namespace Pattern

theorem lead?_eq_head?_ways (p : Pattern) (text : Text) :
    p.lead? text = ((p.ways ⟨[], text⟩).head?).map fun f => { f with trail := f.trail.reverse } := by
  have hfirst : (p.ways ⟨[], text⟩).findSome? some = (p.ways ⟨[], text⟩).head? := by
    cases p.ways ⟨[], text⟩ <;> rfl
  rw [lead?, run_eq none text (by simp [Event.lastRead])]
  simp [first?, waysOfAll, hfirst]

end Pattern

end SelectorSyntax
