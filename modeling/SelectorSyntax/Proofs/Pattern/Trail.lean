import SelectorSyntax.Proofs.Pattern.Language

/-!
# Trails

What a match has left in its trail.  A pattern without marks leaves the characters that it has read
(`traces_of_unmarked`), and a named part leaves them between its two marks (`traces_part`), where `Event.part?` finds
them again.  So the trail of a match of several parts can be read off the pattern, part by part.
-/

namespace SelectorSyntax

namespace Event

/-- The events of reading a text. -/
def reads (x : Text) : List Event :=
  x.map .read

/-- The events of a named part, if there is such a part. -/
def named (name : String) : Option Text → List Event
  | none => []
  | some x => .note (.opens name) :: (reads x ++ [.note (.closes name)])

variable {name other : String}

theorem reads_append (x y : Text) : reads (x ++ y) = reads x ++ reads y := by
  simp [reads]

@[simp] theorem readText_reads (x : Text) : readText (reads x) = x := by
  induction x with
  | nil => rfl
  | cons c x ih => exact congrArg (c :: ·) ih

@[simp] theorem readText_named (name : String) (part : Option Text) : readText (named name part) = part.getD [] := by
  cases part with
  | none => rfl
  | some x =>
    have hclosed : readText [.note (.closes name)] = [] := rfl
    rw [named, readText, Pattern.readText_append, readText_reads, hclosed, List.append_nil]
    rfl

theorem readUntilClosed_reads (name : String) (x : Text) (es : List Event) :
    readUntilClosed name (reads x ++ .note (.closes name) :: es) = x := by
  induction x with
  | nil => simp [reads, readUntilClosed]
  | cons c x ih => exact congrArg (c :: ·) ih

@[simp] theorem part?_reads (name : String) (x : Text) (es : List Event) :
    part? name (reads x ++ es) = part? name es := by
  induction x with
  | nil => rfl
  | cons c x ih => exact ih

@[simp] theorem part?_reads_nil (name : String) (x : Text) : part? name (reads x) = none := by
  simpa [part?] using part?_reads name x []

@[simp] theorem part?_named_some (name : String) (x : Text) (es : List Event) :
    part? name (named name (some x) ++ es) = some x := by
  simp [named, part?, readUntilClosed_reads]

@[simp] theorem part?_named_some_nil (name : String) (x : Text) : part? name (named name (some x)) = some x := by
  simpa using part?_named_some name x []

@[simp] theorem part?_named_none (name other : String) (es : List Event) :
    part? name (named other none ++ es) = part? name es := rfl

@[simp] theorem part?_named_of_ne (h : name ≠ other) (part : Option Text) (es : List Event) :
    part? name (named other part ++ es) = part? name es := by
  cases part with
  | none => rfl
  | some x => simp [named, part?, Ne.symm h]

end Event

namespace Pattern

variable {p q : Pattern} {P : Text → Prop} {es : List Event}

/-- `g` has gone through the events since `f`. -/
def Takes (f : Found) (es : List Event) (g : Found) : Prop :=
  f.rest = Event.readText es ++ g.rest ∧ g.trail = es.reverse ++ f.trail

/-- Some way through the pattern goes through the events. -/
def Traces (p : Pattern) (es : List Event) : Prop :=
  ∃ f g, g ∈ p.ways f ∧ Takes f es g

theorem Takes.refl (f : Found) : Takes f [] f := by
  simp [Takes, Event.readText]

theorem Takes.trans {f g h : Found} {x y : List Event} (hx : Takes f x g) (hy : Takes g y h) : Takes f (x ++ y) h := by
  simp [Takes, readText_append, hx.1, hx.2, hy.1, hy.2]

theorem takes_note (m : Mark) (f : Found) : Takes f [.note m] ⟨.note m :: f.trail, f.rest⟩ := by
  simp [Takes, Event.readText]

theorem takes_read (c : Char) (t : Text) (trail : List Event) :
    Takes ⟨trail, c :: t⟩ [.read c] ⟨.read c :: trail, t⟩ := by
  simp [Takes, Event.readText]

theorem Takes.eq {f g : Found} (h : Takes f es g) : g = ⟨es.reverse ++ f.trail, g.rest⟩ := by
  rw [← h.2]

/-- What happened on a way is told by where it has come from and where it has come. -/
theorem Takes.unique {f g : Found} {x y : List Event} (hx : Takes f x g) (hy : Takes f y g) : x = y := by
  have h := hx.2.symm.trans hy.2
  simpa using h

theorem exists_takes_of_mem_ways {f g : Found} (hg : g ∈ p.ways f) : ∃ es, Takes f es g := by
  refine rel_of_mem_ways (R := fun f g => ∃ es, Takes f es g) (fun f => ⟨[], .refl f⟩) ?_ ?_ ?_ hg
  · rintro f g h ⟨x, hx⟩ ⟨y, hy⟩
    exact ⟨x ++ y, hx.trans hy⟩
  · exact fun c t trail => ⟨_, takes_read c t trail⟩
  · exact fun m _ f => ⟨_, takes_note m f⟩

/-! ### Traces by the form of the pattern -/

theorem traces_seq (h : (Pattern.seq p q).Traces es) : ∃ x y, p.Traces x ∧ q.Traces y ∧ es = x ++ y := by
  obtain ⟨f, g, hg, hes⟩ := h
  obtain ⟨f', hf', hg⟩ := List.mem_flatMap.1 hg
  obtain ⟨x, hx⟩ := exists_takes_of_mem_ways hf'
  obtain ⟨y, hy⟩ := exists_takes_of_mem_ways hg
  exact ⟨x, y, ⟨f, f', hf', hx⟩, ⟨f', g, hg, hy⟩, hes.unique (hx.trans hy)⟩

theorem traces_optional (h : (optional p).Traces es) : p.Traces es ∨ es = [] := by
  obtain ⟨f, g, hg, hes⟩ := h
  rcases List.mem_append.1 hg with hg | hg
  · exact .inl ⟨f, g, hg, hes⟩
  · rw [List.mem_singleton.1 hg] at hes
    exact .inr (hes.unique (.refl f))

theorem traces_mark {m : Mark} (h : (Pattern.mark m).Traces es) : es = [.note m] := by
  obtain ⟨f, g, hg, hes⟩ := h
  rw [List.mem_singleton.1 hg] at hes
  exact hes.unique (takes_note m f)

/-- A pattern without marks leaves the characters of a text that it stands for. -/
theorem traces_of_unmarked (hP : p.Matches = P) (hmarks : p.marks = []) (hp : p.isUnconditional) (h : p.Traces es) :
    ∃ x, P x ∧ es = Event.reads x := by
  obtain ⟨f, g, hg, hes⟩ := h
  have hreads : ∃ x, Takes f (Event.reads x) g := by
    refine rel_of_mem_ways (R := fun f g => ∃ x, Takes f (Event.reads x) g) (fun f => ⟨[], .refl f⟩) ?_ ?_ ?_ hg
    · rintro f g h ⟨x, hx⟩ ⟨y, hy⟩
      exact ⟨x ++ y, Event.reads_append x y ▸ hx.trans hy⟩
    · exact fun c t trail => ⟨[c], takes_read c t trail⟩
    · intro m hm
      rw [hmarks] at hm
      cases hm
  obtain ⟨x, hx⟩ := hreads
  have hend : g.rest ∈ p.ends f.rest := by
    rw [← map_rest_ways hp f]
    exact List.mem_map_of_mem hg
  obtain ⟨y, hy, heq⟩ := (mem_ends p f.rest g.rest).1 hend
  obtain rfl : x = y := by
    have hrest := hx.1
    rw [Event.readText_reads, heq] at hrest
    exact (List.append_cancel_right hrest).symm
  exact ⟨x, hP ▸ hy, hes.unique hx⟩

theorem traces_part {name : String} (hP : p.Matches = P) (hmarks : p.marks = []) (hp : p.isUnconditional)
    (h : (part name p).Traces es) : ∃ x, P x ∧ es = Event.named name (some x) := by
  obtain ⟨_, _, hopens, hrest, rfl⟩ := traces_seq h
  obtain ⟨_, _, hinner, hcloses, rfl⟩ := traces_seq hrest
  obtain rfl := traces_mark hopens
  obtain rfl := traces_mark hcloses
  obtain ⟨x, hx, rfl⟩ := traces_of_unmarked hP hmarks hp hinner
  exact ⟨x, hx, rfl⟩

theorem traces_optional_part {name : String} (hP : p.Matches = P) (hmarks : p.marks = []) (hp : p.isUnconditional)
    (h : (optional (part name p)).Traces es) : ∃ x : Option Text, (∀ y ∈ x, P y) ∧ es = Event.named name x := by
  rcases traces_optional h with h | rfl
  · obtain ⟨x, hx, rfl⟩ := traces_part hP hmarks hp h
    exact ⟨some x, by simpa using hx, rfl⟩
  · exact ⟨none, by simp, rfl⟩

theorem matches_part (name : String) (p : Pattern) : (part name p).Matches = p.Matches := by
  ext t
  simp [part, concat, Matches]

/-- The trail of a whole match is a trace of the pattern, and it has read the text. -/
theorem traces_of_whole? {t : Text} (h : p.whole? t = some es) : p.Traces es ∧ Event.readText es = t := by
  rw [whole?, lead?_eq_head?_ways, Option.map_map, Option.map_eq_some_iff] at h
  obtain ⟨g, hg, rfl⟩ := h
  obtain ⟨f', hf', hg⟩ := List.mem_flatMap.1 (List.mem_of_mem_head? hg)
  have hend : f'.rest = [] ∧ g = f' := by simpa [ways, atEnd, Found.place, Place.satisfies] using hg
  obtain ⟨hrest, rfl⟩ := hend
  obtain ⟨es, hes⟩ := exists_takes_of_mem_ways hf'
  have htrail : g.trail.reverse = es := by simp [hes.2]
  have hread := hes.1
  rw [hrest, List.append_nil] at hread
  simp only [Function.comp_apply, htrail]
  exact ⟨⟨_, g, hf', hes⟩, hread.symm⟩

end Pattern

end SelectorSyntax
