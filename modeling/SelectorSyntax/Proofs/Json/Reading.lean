import Mathlib.Data.List.DropRight
import SelectorSyntax.Json.Writer
import SelectorSyntax.Proofs.Json.Strings
import SelectorSyntax.Proofs.Text.Cutting

/-!
# Reading what is written

A written value stands at the beginning of a text that goes on with a comma, a bracket or blanks.  `Reads t v` says
that the reader finds `v` at the beginning of such a text, takes exactly `t` for it, and needs no more fuel than `t` is
long.  Each kind of value has its lemma: the texts of the parts may have blanks before them, and so both the compact
and the indented form are put together from the same lemmas (`reads_compact`, `reads_prettyAt`).

A value is read back when it is `Written` well: its strings are the written forms of texts, and its numbers are
integers.
-/

namespace SelectorSyntax.Json

variable {b t rest : Text} {c : Char} {fuel : Nat} {v : Json} {vs : List Json} {ms : List (Text × Json)}

/-! ### Blanks -/

theorem skipBlanks_append (hb : ∀ c ∈ b, isBlank c = true) : skipBlanks (b ++ t) = skipBlanks t :=
  List.dropWhile_append_of_pos hb

theorem skipBlanks_cons (hc : isBlank c = false) : skipBlanks (c :: t) = c :: t :=
  List.dropWhile_cons_of_neg (by simp [hc])

theorem skipBlanks_append_cons (hb : ∀ c ∈ b, isBlank c = true) (hc : isBlank c = false) :
    skipBlanks (b ++ c :: t) = c :: t := by
  rw [skipBlanks_append hb, skipBlanks_cons hc]

theorem value?_skipBlanks (fuel : Nat) (t : Text) : value? fuel (skipBlanks t) = value? fuel t := by
  cases fuel with
  | zero => rfl
  | succ fuel => rw [value?, value?, skipBlanks, skipBlanks, List.dropWhile_idempotent]

theorem items?_skipBlanks (fuel : Nat) (t : Text) : items? fuel (skipBlanks t) = items? fuel t := by
  cases fuel with
  | zero => rfl
  | succ fuel => rw [items?, items?, value?_skipBlanks]

theorem members?_skipBlanks (fuel : Nat) (t : Text) : members? fuel (skipBlanks t) = members? fuel t := by
  cases fuel with
  | zero => rfl
  | succ fuel => rw [members?, members?, skipBlanks, skipBlanks, List.dropWhile_idempotent]

/-! ### Brackets -/

/-- No value begins with a closing bracket. -/
theorem skipBlanks_ne_of_items? (h : items? fuel t = some (vs, rest)) (u : Text) : skipBlanks t ≠ ']' :: u := by
  intro hu
  have hvalue (fuel : Nat) : value? fuel t = none := by
    cases fuel with
    | zero => rfl
    | succ fuel =>
      rw [value?, hu]
      rfl
  cases fuel with
  | zero => simp [items?] at h
  | succ fuel => simp [items?, hvalue] at h

/-- No name begins with a closing brace. -/
theorem skipBlanks_ne_of_members? (h : members? fuel t = some (ms, rest)) (u : Text) :
    skipBlanks t ≠ '\x7d' :: u := by
  intro hu
  cases fuel with
  | zero => simp [members?] at h
  | succ fuel => simp [members?, hu] at h

theorem value?_array (h : items? fuel t = some (vs, rest)) :
    value? (fuel + 1) ('[' :: t) = some (.array vs, rest) := by
  have hbracket : skipBlanks ('[' :: t) = '[' :: t := skipBlanks_cons rfl
  simp only [value?, hbracket]
  -- the array is empty if its bracket is closed at once
  split
  · rename_i u hu
    exact absurd hu (skipBlanks_ne_of_items? h u)
  · rw [items?_skipBlanks, h]
    rfl

theorem value?_object (h : members? fuel t = some (ms, rest)) :
    value? (fuel + 1) ('\x7b' :: t) = some (.object ms, rest) := by
  have hbrace : skipBlanks ('\x7b' :: t) = '\x7b' :: t := skipBlanks_cons rfl
  simp only [value?, hbrace]
  split
  · rename_i u hu
    exact absurd hu (skipBlanks_ne_of_members? h u)
  · rw [members?_skipBlanks, h]
    rfl

/-! ### Values -/

/-- No number goes on with the text. -/
def EndsNumber (rest : Text) : Prop :=
  ∀ c ∈ rest.head?, isNumberChar c = false

/-- The reader finds the value at the beginning of every text that goes on after this one. -/
def Reads (t : Text) (v : Json) : Prop :=
  ∀ fuel rest, t.length < fuel → EndsNumber rest → value? fuel (t ++ rest) = some (v, rest)

/-- The reader finds the items of an array before its closing bracket. -/
def ReadsItems (t : Text) (vs : List Json) : Prop :=
  ∀ fuel rest, t.length + 1 < fuel → items? fuel (t ++ ']' :: rest) = some (vs, rest)

/-- The reader finds the members of an object before its closing brace. -/
def ReadsMembers (t : Text) (ms : List (Text × Json)) : Prop :=
  ∀ fuel rest, t.length + 1 < fuel → members? fuel (t ++ '\x7d' :: rest) = some (ms, rest)

/-- A member as it is written: a name, a colon and a value, with blanks before the name. -/
def ReadsMember (t : Text) (m : Text × Json) : Prop :=
  ∃ b name u, t = b ++ quote (escape name) ++ ':' :: u ∧ (∀ c ∈ b, isBlank c = true) ∧ m.1 = escape name ∧
    Reads u m.2

theorem endsNumber_cons (hc : isNumberChar c = false) : EndsNumber (c :: rest) := by
  intro d hd
  rwa [← Option.some.inj hd]

theorem endsNumber_append (hb : ∀ c ∈ b, isBlank c = true) (hrest : EndsNumber rest) : EndsNumber (b ++ rest) := by
  cases b with
  | nil => exact hrest
  | cons c b =>
    have hblank : isBlank c = true := hb c List.mem_cons_self
    refine endsNumber_cons ?_
    simp only [isBlank, Bool.or_eq_true, beq_iff_eq] at hblank
    obtain ((rfl | rfl) | rfl) | rfl := hblank <;> rfl

theorem Reads.blanks (hb : ∀ c ∈ b, isBlank c = true) (h : Reads t v) : Reads (b ++ t) v := by
  intro fuel rest hfuel hrest
  have hlength : t.length < fuel := by
    rw [List.length_append] at hfuel
    omega
  rw [List.append_assoc, ← value?_skipBlanks, skipBlanks_append hb, value?_skipBlanks, h fuel rest hlength hrest]

theorem reads_of_succ
    (h : ∀ fuel rest, t.length ≤ fuel → EndsNumber rest → value? (fuel + 1) (t ++ rest) = some (v, rest)) :
    Reads t v := by
  intro fuel rest hfuel hrest
  cases fuel with
  | zero => exact absurd hfuel (Nat.not_lt_zero _)
  | succ fuel => exact h fuel rest (Nat.le_of_lt_succ hfuel) hrest

theorem reads_null : Reads "null".toList .null :=
  reads_of_succ fun _ _ _ _ => rfl

theorem reads_bool (value : Bool) : Reads (compact (.bool value)) (.bool value) := by
  refine reads_of_succ fun fuel rest hfuel hrest => ?_
  cases value <;> rfl

theorem reads_string (name : Text) : Reads (quote (escape name)) (ofText name) := by
  refine reads_of_succ fun fuel rest hfuel hrest => ?_
  have hbody := stringBody?_escape name rest
  have hquote : skipBlanks ('"' :: (escape name ++ '"' :: rest)) = '"' :: (escape name ++ '"' :: rest) :=
    skipBlanks_cons rfl
  rw [quote, List.append_assoc, List.cons_append, List.singleton_append]
  simp only [value?, hquote, hbody, Option.map_some, ofText]

theorem reads_array_nil : Reads "[]".toList (.array []) :=
  reads_of_succ fun _ _ _ _ => rfl

theorem reads_object_nil : Reads "\x7b\x7d".toList (.object []) :=
  reads_of_succ fun _ _ _ _ => rfl

theorem reads_array (h : ReadsItems t vs) : Reads ('[' :: t ++ [']']) (.array vs) := by
  refine reads_of_succ fun fuel rest hfuel hrest => ?_
  simp only [List.length_append, List.length_cons, List.length_nil] at hfuel
  rw [List.append_assoc, List.cons_append, List.singleton_append]
  exact value?_array (h fuel rest (by omega))

theorem reads_object (h : ReadsMembers t ms) : Reads ('\x7b' :: t ++ ['\x7d']) (.object ms) := by
  refine reads_of_succ fun fuel rest hfuel hrest => ?_
  simp only [List.length_append, List.length_cons, List.length_nil] at hfuel
  rw [List.append_assoc, List.cons_append, List.singleton_append]
  exact value?_object (h fuel rest (by omega))

/-! ### Numbers -/

theorem span_eq_of_all {p : Char → Bool} (ht : ∀ c ∈ t, p c = true) (hrest : ∀ c ∈ rest.head?, p c = false) :
    (t ++ rest).span p = (t, rest) := by
  rw [List.span_eq_takeWhile_dropWhile, List.takeWhile_append_of_pos ht, List.dropWhile_append_of_pos ht]
  cases rest with
  | nil => simp
  | cons c rest => simp [hrest c rfl]

theorem ne_of_isDigit {d : Char} (hc : c.isDigit = true) (hd : d.isDigit = false) : c ≠ d := by
  rintro rfl
  simp [hc] at hd

theorem isDigit_of_isInteger (h : isInteger t = true) : t ≠ [] ∧ ∀ c ∈ t, c.isDigit = true := by
  simp only [isInteger, isDigits, Bool.and_eq_true, List.all_eq_true] at h
  simpa using h.1

theorem isNumber_of_isInteger (h : isInteger t = true) : isNumber t = true := by
  obtain ⟨-, hdigits⟩ := isDigit_of_isInteger h
  have hexponent : cutExponent t = (t, none) := by
    have hspan : (t ++ []).span (fun c => c != 'e' && c != 'E') = (t, []) := by
      refine span_eq_of_all (fun c hc => ?_) (by simp)
      have he : c ≠ 'e' := ne_of_isDigit (hdigits c hc) rfl
      have hE : c ≠ 'E' := ne_of_isDigit (hdigits c hc) rfl
      simp [he, hE]
    rw [List.append_nil] at hspan
    rw [cutExponent, hspan]
  have hpoint : Text.cutAt? '.' t = none :=
    Text.cutAt?_of_not_mem fun hmem => ne_of_isDigit (hdigits '.' hmem) rfl rfl
  unfold isNumber
  split
  · exact absurd rfl (ne_of_isDigit (hdigits '-' List.mem_cons_self) rfl)
  · simp [hexponent, hpoint, h]

/-- At a digit the reader takes a number. -/
theorem value?_of_isDigit (hc : c.isDigit = true) : value? (fuel + 1) (c :: t) = number? (c :: t) := by
  have hblank : isBlank c = false := by
    have hspace : c ≠ ' ' := ne_of_isDigit hc rfl
    have htab : c ≠ '\t' := ne_of_isDigit hc rfl
    have hline : c ≠ '\n' := ne_of_isDigit hc rfl
    have hreturn : c ≠ '\r' := ne_of_isDigit hc rfl
    simp [isBlank, hspace, htab, hline, hreturn]
  -- it begins neither a string nor a list
  have hquote : c ≠ '"' := ne_of_isDigit hc rfl
  have hbracket : c ≠ '[' := ne_of_isDigit hc rfl
  have hbrace : c ≠ '\x7b' := ne_of_isDigit hc rfl
  simp only [value?, skipBlanks_cons hblank]
  exact if_pos (by simp [hc])

theorem reads_number (h : isInteger t = true) : Reads t (.number t) := by
  refine reads_of_succ fun fuel rest hfuel hrest => ?_
  obtain ⟨hnil, hdigits⟩ := isDigit_of_isInteger h
  have hnumber : number? (t ++ rest) = some (.number t, rest) := by
    have hspan : (t ++ rest).span isNumberChar = (t, rest) :=
      span_eq_of_all (fun c hc => by simp [isNumberChar, hdigits c hc]) hrest
    rw [number?, hspan]
    exact if_pos (isNumber_of_isInteger h)
  obtain ⟨c, u, rfl⟩ := List.exists_cons_of_ne_nil hnil
  rw [List.cons_append] at hnumber ⊢
  rw [value?_of_isDigit (hdigits c List.mem_cons_self), hnumber]

/-! ### Lists -/

theorem readsItems_singleton (h : Reads t v) (hb : ∀ c ∈ b, isBlank c = true) : ReadsItems (t ++ b) [v] := by
  intro fuel rest hfuel
  obtain ⟨fuel, rfl⟩ := Nat.exists_eq_add_one_of_ne_zero (Nat.ne_zero_of_lt hfuel)
  rw [List.length_append] at hfuel
  have hvalue := h fuel (b ++ ']' :: rest) (by omega) (endsNumber_append hb (endsNumber_cons rfl))
  have hblanks : skipBlanks (b ++ ']' :: rest) = ']' :: rest := skipBlanks_append_cons hb rfl
  rw [List.append_assoc, items?]
  simp only [hvalue, hblanks]

theorem readsItems_cons (h : Reads t v) (hvs : ReadsItems b vs) : ReadsItems (t ++ ',' :: b) (v :: vs) := by
  intro fuel rest hfuel
  obtain ⟨fuel, rfl⟩ := Nat.exists_eq_add_one_of_ne_zero (Nat.ne_zero_of_lt hfuel)
  rw [List.length_append, List.length_cons] at hfuel
  have hvalue := h fuel (',' :: (b ++ ']' :: rest)) (by omega) (endsNumber_cons rfl)
  have hcomma : skipBlanks (',' :: (b ++ ']' :: rest)) = ',' :: (b ++ ']' :: rest) := skipBlanks_cons rfl
  have hitems := hvs fuel rest (by omega)
  rw [List.append_assoc, List.cons_append, items?]
  simp only [hvalue, hcomma, hitems, Option.map_some]

/-- The reader takes a member up to its value, and comes to what follows. -/
theorem members?_of_readsMember {m : Text × Json} (h : ReadsMember t m) (hfuel : t.length < fuel)
    (hrest : EndsNumber rest) :
    (∀ u, skipBlanks rest = '\x7d' :: u → members? (fuel + 1) (t ++ rest) = some ([m], u)) ∧
    (∀ u ms v, skipBlanks rest = ',' :: u → members? fuel u = some (ms, v) →
      members? (fuel + 1) (t ++ rest) = some (m :: ms, v)) := by
  obtain ⟨b, name, w, rfl, hb, hname, hw⟩ := h
  obtain ⟨name', value⟩ := m
  obtain rfl : name' = escape name := hname
  simp only [List.length_append, List.length_cons] at hfuel
  have hvalue := hw fuel rest (by omega) hrest
  have hbody := stringBody?_escape name (':' :: (w ++ rest))
  have hcolon : skipBlanks (':' :: (w ++ rest)) = ':' :: (w ++ rest) := skipBlanks_cons rfl
  have htext : b ++ quote (escape name) ++ ':' :: w ++ rest =
      b ++ '"' :: (escape name ++ '"' :: ':' :: (w ++ rest)) := by
    simp [quote]
  rw [htext, members?, skipBlanks_append_cons hb rfl]
  constructor
  · intro u hu
    simp only [hbody, hcolon, hvalue, hu]
  · intro u ms v hu hms
    simp only [hbody, hcolon, hvalue, hu, hms, Option.map_some]

theorem readsMembers_singleton {m : Text × Json} (h : ReadsMember t m) (hb : ∀ c ∈ b, isBlank c = true) :
    ReadsMembers (t ++ b) [m] := by
  intro fuel rest hfuel
  obtain ⟨fuel, rfl⟩ := Nat.exists_eq_add_one_of_ne_zero (Nat.ne_zero_of_lt hfuel)
  rw [List.length_append] at hfuel
  have hblanks : skipBlanks (b ++ '\x7d' :: rest) = '\x7d' :: rest := skipBlanks_append_cons hb rfl
  rw [List.append_assoc]
  exact (members?_of_readsMember h (by omega) (endsNumber_append hb (endsNumber_cons rfl))).1 rest hblanks

theorem readsMembers_cons {m : Text × Json} (h : ReadsMember t m) (hms : ReadsMembers b ms) :
    ReadsMembers (t ++ ',' :: b) (m :: ms) := by
  intro fuel rest hfuel
  obtain ⟨fuel, rfl⟩ := Nat.exists_eq_add_one_of_ne_zero (Nat.ne_zero_of_lt hfuel)
  rw [List.length_append, List.length_cons] at hfuel
  have hmembers := hms fuel rest (by omega)
  rw [List.append_assoc, List.cons_append]
  exact (members?_of_readsMember h (by omega) (endsNumber_cons rfl)).2 _ ms rest (skipBlanks_cons rfl) hmembers

section

variable {α : Type} {f : α → Text}

/-- What holds of one part with the blanks after it, and remains true when a part and a comma are put before, holds of
parts with commas between them. -/
theorem join_induction {P : Text → List α → Prop} {R : Text → α → Prop}
    (hone : ∀ {t a}, R t a → P (t ++ b) [a]) (hcons : ∀ {t a u as}, R t a → P u as → P (t ++ ',' :: u) (a :: as)) :
    ∀ {as : List α}, as ≠ [] → (∀ a ∈ as, R (f a) a) → P (Text.join [','] (as.map f) ++ b) as
  | [], hne, _ => absurd rfl hne
  | [a], _, has => hone (has a List.mem_cons_self)
  | a :: a' :: as, _, has => by
    have hrest := join_induction hone hcons (List.cons_ne_nil a' as) fun x hx => has x (List.mem_cons_of_mem a hx)
    have htext : Text.join [','] ((a :: a' :: as).map f) ++ b =
        f a ++ ',' :: (Text.join [','] ((a' :: as).map f) ++ b) := by
      simp [Text.join]
    rw [htext]
    exact hcons (has a List.mem_cons_self) hrest

theorem eq_join {write : List α → Text} (hnil : write [] = []) (hone : ∀ a, write [a] = f a)
    (hcons : ∀ a a' as, write (a :: a' :: as) = f a ++ ',' :: write (a' :: as)) :
    ∀ as, write as = Text.join [','] (as.map f)
  | [] => hnil
  | [a] => hone a
  | a :: a' :: as => by
    rw [hcons, eq_join hnil hone hcons (a' :: as)]
    simp [Text.join]

end

theorem compactItems_eq_join (vs : List Json) : compactItems vs = Text.join [','] (vs.map compact) :=
  eq_join rfl (fun _ => rfl) (fun _ _ _ => rfl) vs

theorem compactMembers_eq_join (ms : List (Text × Json)) :
    compactMembers ms = Text.join [','] (ms.map fun m => quote m.1 ++ ':' :: m.2.compact) :=
  eq_join rfl (fun _ => rfl) (fun _ _ _ => by simp [compactMembers]) ms

theorem prettyItems_eq_join (level : Nat) (vs : List Json) :
    prettyItems level vs = Text.join [','] (vs.map fun v => newLine level ++ v.prettyAt level) :=
  eq_join rfl (fun _ => rfl) (fun _ _ _ => rfl) vs

theorem prettyMembers_eq_join (level : Nat) (ms : List (Text × Json)) :
    prettyMembers level ms =
      Text.join [','] (ms.map fun m => newLine level ++ quote m.1 ++ ':' :: (" ".toList ++ m.2.prettyAt level)) :=
  eq_join rfl (fun _ => by simp [prettyMembers]) (fun _ _ _ => by simp [prettyMembers]) ms

/-! ### Written values -/

/-- The values that can be written and read back: names and strings are the written forms of texts, and numbers are
integers. -/
inductive Written : Json → Prop
  | null : Written .null
  | bool (value : Bool) : Written (.bool value)
  | number {t : Text} (h : isInteger t = true) : Written (.number t)
  | string (t : Text) : Written (.ofText t)
  | array {vs : List Json} (h : ∀ v ∈ vs, Written v) : Written (.array vs)
  | object {ms : List (Text × Json)} (hnames : ∀ m ∈ ms, ∃ name, m.1 = escape name)
      (hvalues : ∀ m ∈ ms, Written m.2) : Written (.object ms)

theorem blanks_newLine (level : Nat) : ∀ c ∈ newLine level, isBlank c = true := by
  intro c hc
  rw [newLine, List.mem_cons, List.mem_replicate] at hc
  obtain rfl | ⟨-, rfl⟩ := hc <;> rfl

theorem readsItems_join {f : Json → Text} (hb : ∀ c ∈ b, isBlank c = true) (hne : vs ≠ [])
    (h : ∀ v ∈ vs, Reads (f v) v) : ReadsItems (Text.join [','] (vs.map f) ++ b) vs :=
  join_induction (fun h => readsItems_singleton h hb) (fun h hvs => readsItems_cons h hvs) hne h

theorem readsMembers_join {f : Text × Json → Text} (hb : ∀ c ∈ b, isBlank c = true) (hne : ms ≠ [])
    (h : ∀ m ∈ ms, ReadsMember (f m) m) : ReadsMembers (Text.join [','] (ms.map f) ++ b) ms :=
  join_induction (fun h => readsMembers_singleton h hb) (fun h hms => readsMembers_cons h hms) hne h

theorem readsMember_compact {m : Text × Json} (hname : ∃ name, m.1 = escape name) (h : Reads m.2.compact m.2) :
    ReadsMember (quote m.1 ++ ':' :: m.2.compact) m := by
  obtain ⟨name, hname⟩ := hname
  exact ⟨[], name, m.2.compact, by rw [hname, List.nil_append], List.forall_mem_nil _, hname, h⟩

theorem readsMember_pretty {m : Text × Json} {level : Nat} (hname : ∃ name, m.1 = escape name)
    (h : Reads (m.2.prettyAt level) m.2) :
    ReadsMember (newLine level ++ quote m.1 ++ ':' :: (" ".toList ++ m.2.prettyAt level)) m := by
  obtain ⟨name, hname⟩ := hname
  have hblank : ∀ c ∈ " ".toList, isBlank c = true := by
    intro c hc
    rw [List.mem_singleton.mp hc]
    rfl
  exact ⟨newLine level, name, _, by rw [hname], blanks_newLine level, hname, h.blanks hblank⟩

theorem reads_compact (h : Written v) : Reads v.compact v := by
  induction h with
  | null => exact reads_null
  | bool value => exact reads_bool value
  | number h => exact reads_number h
  | string t => exact reads_string t
  | @array vs _ ih =>
    -- a list without members is written in another way
    by_cases hne : vs = []
    · subst hne
      exact reads_array_nil
    · have hitems := readsItems_join (b := []) (List.forall_mem_nil _) hne ih
      rw [← compactItems_eq_join, List.append_nil] at hitems
      exact reads_array hitems
  | @object ms hnames _ ih =>
    by_cases hne : ms = []
    · subst hne
      exact reads_object_nil
    · have hmembers := readsMembers_join (b := []) (List.forall_mem_nil _) hne
        fun m hm => readsMember_compact (hnames m hm) (ih m hm)
      rw [← compactMembers_eq_join, List.append_nil] at hmembers
      exact reads_object hmembers

theorem reads_prettyAt (h : Written v) (level : Nat) : Reads (v.prettyAt level) v := by
  induction h generalizing level with
  | null => exact reads_null
  | bool value =>
    cases value with
    | false => exact reads_bool false
    | true => exact reads_bool true
  | number h => exact reads_number h
  | string t => exact reads_string t
  | @array vs _ ih =>
    match vs with
    | [] => exact reads_array_nil
    | v :: vs =>
      have hitems := readsItems_join (blanks_newLine level) (List.cons_ne_nil v vs)
        fun v hv => (ih v hv (level + 1)).blanks (blanks_newLine (level + 1))
      rw [← prettyItems_eq_join] at hitems
      exact reads_array hitems
  | @object ms hnames _ ih =>
    match ms with
    | [] => exact reads_object_nil
    | m :: ms =>
      have hmembers := readsMembers_join (blanks_newLine level) (List.cons_ne_nil m ms)
        fun m hm => readsMember_pretty (hnames m hm) (ih m hm (level + 1))
      rw [← prettyMembers_eq_join] at hmembers
      exact reads_object hmembers

/-! ### Texts -/

theorem read?_of_reads (h : Reads t v) : read? t = some v := by
  have hvalue := h (t.length + 1) [] (Nat.lt_succ_self _) (by simp [EndsNumber])
  rw [List.append_nil] at hvalue
  rw [read?, hvalue]
  rfl

/-- What is written without blanks is read back. -/
theorem read?_compact (h : Written v) : read? v.compact = some v :=
  read?_of_reads (reads_compact h)

/-- What is written over several lines is read back. -/
theorem read?_pretty (h : Written v) : read? v.pretty = some v :=
  read?_of_reads (reads_prettyAt h 0)

end SelectorSyntax.Json
