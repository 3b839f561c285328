import SelectorSyntax.Form
import SelectorSyntax.Proofs.Attribute.Composition
import SelectorSyntax.Proofs.Json.Reading

/-!
# JSON forms are read back

Classifications and the parts of selectors are read back from the JSON texts they are written to, whatever the texts in
them and whichever of their fields are absent (`roundTrips_forms`).

Three things come together.  The JSON value of a form is written and read back as a text (`Json.read?_compact`,
`Json.read?_pretty`); the reader of a form gives back what its writer was given; and the reader sees the fields of an
object only, which do not depend on the order of its members (`fields?_perm`).
-/

namespace SelectorSyntax

theorem Category.ofName?_name (c : Category) : ofName? c.name.toList = some c := by
  cases c <;> decide

namespace Form

/-! ### The order of members -/

theorem exists_mapM_eq_some_of_perm {α β : Type} {f : α → Option β} {l l' : List α} (h : l.Perm l') {r : List β}
    (hr : l.mapM f = some r) : ∃ r', l'.mapM f = some r' ∧ r.Perm r' := by
  induction h generalizing r with
  | nil => exact ⟨r, hr, .refl r⟩
  | cons a _ ih =>
    simp only [List.mapM_cons, Option.bind_eq_bind, Option.bind_eq_some_iff, Option.pure_def, Option.some.injEq]
      at hr ⊢
    obtain ⟨b, hb, bs, hbs, rfl⟩ := hr
    obtain ⟨bs', hbs', hperm⟩ := ih hbs
    exact ⟨b :: bs', ⟨b, hb, bs', hbs', rfl⟩, hperm.cons b⟩
  | swap a a' l =>
    simp only [List.mapM_cons, Option.bind_eq_bind, Option.bind_eq_some_iff, Option.pure_def, Option.some.injEq]
      at hr ⊢
    obtain ⟨b', hb', _, ⟨b, hb, bs, hbs, rfl⟩, rfl⟩ := hr
    exact ⟨b :: b' :: bs, ⟨b, hb, _, ⟨b', hb', bs, hbs, rfl⟩, rfl⟩, .swap b b' bs⟩
  | trans _ _ ih ih' =>
    obtain ⟨r', hr', hperm⟩ := ih hr
    obtain ⟨r'', hr'', hperm'⟩ := ih' hr'
    exact ⟨r'', hr'', hperm.trans hperm'⟩

theorem field?_perm {ms ms' : List (Text × Json)} (h : ms.Perm ms') (name : String) :
    field? ms name = field? ms' name := by
  have hfilter := h.filter (·.1 == name.toList)
  rw [field?, field?]
  generalize ms.filter (·.1 == name.toList) = l at hfilter ⊢
  generalize ms'.filter (·.1 == name.toList) = l' at hfilter ⊢
  -- none, one or several members with the name
  match l, l' with
  | [], _ => rw [hfilter.nil_eq]
  | [m], _ => rw [hfilter.singleton_eq]
  | _ :: _ :: _, [] => exact absurd hfilter.length_eq (by simp)
  | _ :: _ :: _, [_] => exact absurd hfilter.length_eq (by simp)
  | _ :: _ :: _, _ :: _ :: _ => rfl

/-- The fields of an object are the same for every order of its members. -/
theorem fields?_perm {members members' : List (Text × Json)} (h : members.Perm members') (names : List String)
    (required : Nat) : fields? names required (.object members) = fields? names required (.object members') := by
  cases hms : members? members with
  | none =>
    have hms' : members? members' = none := by
      refine Option.eq_none_iff_forall_ne_some.mpr fun ms' hms' => ?_
      obtain ⟨ms, hsome, -⟩ := exists_mapM_eq_some_of_perm h.symm hms'
      exact absurd (hms.symm.trans hsome) (by simp)
    rw [fields?, fields?, hms, hms']
  | some ms =>
    obtain ⟨ms', hms', hperm⟩ := exists_mapM_eq_some_of_perm h hms
    have hfield : field? ms = field? ms' := funext (field?_perm hperm)
    rw [fields?, fields?, hms, show members? members' = some ms' from hms']
    exact congrArg names.mapM hfield

/-! ### Fields -/

/-- The names of the members that a writer makes are read as they are. -/
theorem members?_map_member (fields : List (String × Json)) :
    members? (fields.map fun f => Json.member f.1 f.2) = some (fields.map fun f => (f.1.toList, f.2)) := by
  induction fields with
  | nil => rfl
  | cons f fields ih =>
    rw [members?] at ih ⊢
    rw [List.map_cons, List.mapM_cons, ih]
    simp [Json.member]

/-- Where names are not repeated, a field is the value with its name. -/
theorem field?_eq_lookup {fields : List (String × Json)} (h : (fields.map Prod.fst).Nodup) (name : String) :
    field? (fields.map fun f => (f.1.toList, f.2)) name = some (fields.lookup name) := by
  induction fields with
  | nil => rfl
  | cons f fields ih =>
    obtain ⟨n, v⟩ := f
    obtain ⟨hmem, hnodup⟩ := List.nodup_cons.mp h
    by_cases hn : n = name
    · subst hn
      have hrest : (fields.map fun f => (f.1.toList, f.2)).filter (·.1 == n.toList) = [] := by
        rw [List.filter_eq_nil_iff]
        intro m hm
        obtain ⟨f, hf, rfl⟩ := List.mem_map.mp hm
        have hne : f.1 ≠ n := by
          rintro rfl
          exact hmem (List.mem_map.mpr ⟨f, hf, rfl⟩)
        simpa [String.toList_inj] using hne
      rw [field?, List.map_cons, List.filter_cons_of_pos (by simp), hrest, List.lookup_cons_self]
    · have hne : (name == n) = false := by simpa using Ne.symm hn
      rw [field?, List.map_cons, List.filter_cons_of_neg (by simpa [String.toList_inj] using hn), ← field?,
        ih hnodup, List.lookup_cons, hne]

/-- The readers find these values under their names, and nothing under other names. -/
def HasFields (v : Json) (fields : List (String × Json)) : Prop :=
  ∀ names required, fields? names required v = some (names.map fun name => fields.lookup name)

theorem hasFields_of_perm {members : List (Text × Json)} {fields : List (String × Json)}
    (h : members.Perm (fields.map fun f => Json.member f.1 f.2)) (hnodup : (fields.map Prod.fst).Nodup) :
    HasFields (.object members) fields := by
  intro names required
  have hfield : field? (fields.map fun f => (f.1.toList, f.2)) = fun name => some (fields.lookup name) :=
    funext (field?_eq_lookup hnodup)
  rw [fields?_perm h, fields?, members?_map_member]
  change names.mapM (field? (fields.map fun f => (f.1.toList, f.2))) = _
  rw [hfield]
  exact List.mapM_pure

theorem text?_ofText (t : Text) : text? (.ofText t) = some t :=
  Json.unescape?_escape t

theorem category?_ofCategory (c : Category) : category? (ofCategory c) = some c := by
  simp [category?, ofCategory, named?, Json.ofName, Json.ofText, Category.ofName?_name]

theorem operator?_ofOperator (o : Attribute.Operator) : operator? (ofOperator o) = some o := by
  simp [operator?, ofOperator, named?, Json.ofName, Json.ofText, Attribute.Operator.ofSymbol?_symbol]

theorem colons?_ofColons (c : Colons) : colons? (ofColons c) = some c := by
  cases c <;> rfl

theorem written_ofColons (c : Colons) : (ofColons c).Written := by
  cases c <;> exact .number (by decide)

theorem ofText_ne_null (t : Text) : Json.ofText t ≠ .null :=
  Json.noConfusion

/-- A field that may be absent is read back if its values are, and none of them is null. -/
theorem absentable?_ofOption {α : Type} {write : α → Json} {read : Json → Option α}
    (hread : ∀ a, read (write a) = some a) (hnull : ∀ a, write a ≠ .null) (a : Option α) :
    absentable? read (some (.ofOption write a)) = some a := by
  cases a with
  | none => rfl
  | some a =>
    rw [absentable?, Json.ofOption, optional?]
    · rw [hread, Option.map_some]
    · exact hnull a

theorem absentable?_text (t : Option Text) : absentable? text? (some (.ofOption .ofText t)) = some t :=
  absentable?_ofOption text?_ofText ofText_ne_null t

theorem written_ofOption {α : Type} {write : α → Json} (h : ∀ a, (write a).Written) (a : Option α) :
    (Json.ofOption write a).Written := by
  cases a with
  | none => exact .null
  | some a => exact h a

/-! ### Forms -/

/-- Every value is written to an object, and both texts of that object, its members in any order, are read back as the
value. -/
def RoundTrips {α : Type} (write : α → Json) (read : Json → Option α) : Prop :=
  ∀ a, ∃ members, write a = .object members ∧ ∀ members', members'.Perm members →
    (Json.read? (Json.object members').compact).bind read = some a ∧
    (Json.read? (Json.object members').pretty).bind read = some a

/-- A form is read back if it is an object of fields with different names, and every value that has these fields is
read as the value it was written for. -/
theorem roundTrips_of_fields {α : Type} {write : α → Json} {read : Json → Option α}
    (h : ∀ a, ∃ fields : List (String × Json), write a = .object (fields.map fun f => Json.member f.1 f.2) ∧
      (fields.map Prod.fst).Nodup ∧ (∀ f ∈ fields, f.2.Written) ∧ ∀ v, HasFields v fields → read v = some a) :
    RoundTrips write read := by
  intro a
  obtain ⟨fields, hwrite, hnodup, hfields, hread⟩ := h a
  refine ⟨_, hwrite, fun members hperm => ?_⟩
  have hwritten : (Json.object members).Written := by
    refine .object (fun m hm => ?_) fun m hm => ?_
    all_goals
      rw [hperm.mem_iff, List.mem_map] at hm
      obtain ⟨f, hf, rfl⟩ := hm
    · exact ⟨f.1.toList, rfl⟩
    · exact hfields f hf
  have hvalue : read (.object members) = some a := hread _ (hasFields_of_perm hperm hnodup)
  rw [Json.read?_compact hwritten, Json.read?_pretty hwritten]
  exact ⟨hvalue, hvalue⟩

theorem roundTrips_classification : RoundTrips ofClassification classification? := by
  refine roundTrips_of_fields fun ⟨category, qualifier⟩ => ?_
  cases qualifier with
  | none =>
    refine ⟨[("category", ofCategory category)], rfl, by simp, ?_, fun v hv => ?_⟩
    · simp only [List.forall_mem_cons]
      exact ⟨.string _, List.forall_mem_nil _⟩
    · have hfields : fields? ["category", "namespace"] 1 v = some [some (ofCategory category), none] := hv _ 1
      rw [classification?, hfields]
      simp only [present?, absentable?, category?_ofCategory]
      rfl
  | some q =>
    refine ⟨[("category", ofCategory category), ("namespace", .ofText q)], rfl, by simp, ?_, fun v hv => ?_⟩
    · simp only [List.forall_mem_cons]
      exact ⟨.string _, .string _, List.forall_mem_nil _⟩
    · have hfields : fields? ["category", "namespace"] 1 v =
          some [some (ofCategory category), some (.ofOption .ofText (some q))] := hv _ 1
      rw [classification?, hfields]
      simp only [present?, category?_ofCategory, absentable?_text]
      rfl

theorem roundTrips_attribute : RoundTrips ofAttribute attribute? := by
  refine roundTrips_of_fields fun ⟨qualifier, name, operator, value⟩ => ?_
  refine ⟨[("namespace", .ofOption .ofText qualifier), ("name", .ofText name),
    ("symbol", .ofOption ofOperator operator), ("value", .ofOption .ofText value)], rfl, by simp, ?_, fun v hv => ?_⟩
  · simp only [List.forall_mem_cons]
    exact ⟨written_ofOption .string _, .string _, written_ofOption (fun _ => .string _) _,
      written_ofOption .string _, List.forall_mem_nil _⟩
  · have hfields : fields? ["namespace", "name", "symbol", "value"] 4 v =
        some [some (.ofOption .ofText qualifier), some (.ofText name), some (.ofOption ofOperator operator),
          some (.ofOption .ofText value)] := hv _ 4
    have hoperator : absentable? operator? (some (.ofOption ofOperator operator)) = some operator :=
      absentable?_ofOption operator?_ofOperator (fun _ => ofText_ne_null _) operator
    rw [attribute?, hfields]
    simp only [present?, text?_ofText, absentable?_text, hoperator]
    rfl

theorem roundTrips_pseudo : RoundTrips ofPseudo pseudo? := by
  refine roundTrips_of_fields fun ⟨vendor, name, argument, colons⟩ => ?_
  refine ⟨[("vendor", .ofOption .ofText vendor), ("name", .ofText name), ("args", .ofOption .ofText argument),
    ("colons", .ofOption ofColons colons)], rfl, by simp, ?_, fun v hv => ?_⟩
  · simp only [List.forall_mem_cons]
    exact ⟨written_ofOption .string _, .string _, written_ofOption .string _,
      written_ofOption written_ofColons _, List.forall_mem_nil _⟩
  · have hfields : fields? ["vendor", "name", "args", "colons"] 4 v =
        some [some (.ofOption .ofText vendor), some (.ofText name), some (.ofOption .ofText argument),
          some (.ofOption ofColons colons)] := hv _ 4
    have hcolons : absentable? colons? (some (.ofOption ofColons colons)) = some colons :=
      absentable?_ofOption colons?_ofColons (fun _ => Json.noConfusion) colons
    rw [pseudo?, hfields]
    simp only [present?, text?_ofText, absentable?_text, hcolons]
    rfl

theorem roundTrips_negation : RoundTrips ofNegation negation? := by
  refine roundTrips_of_fields fun ⟨selector, category⟩ => ?_
  refine ⟨[("selector", .ofText selector), ("type", ofCategory category)], rfl, by simp, ?_, fun v hv => ?_⟩
  · simp only [List.forall_mem_cons]
    exact ⟨.string _, .string _, List.forall_mem_nil _⟩
  · have hfields : fields? ["selector", "type"] 2 v = some [some (.ofText selector), some (ofCategory category)] :=
      hv _ 2
    rw [negation?, hfields]
    simp only [present?, text?_ofText, category?_ofCategory]
    rfl

/-- Classifications and the parts of attribute selectors, pseudos and negations are read back. -/
theorem roundTrips_forms : RoundTrips ofClassification classification? ∧ RoundTrips ofAttribute attribute? ∧
    RoundTrips ofPseudo pseudo? ∧ RoundTrips ofNegation negation? :=
  ⟨roundTrips_classification, roundTrips_attribute, roundTrips_pseudo, roundTrips_negation⟩

end Form

end SelectorSyntax
