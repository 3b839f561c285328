import SelectorSyntax.Proofs.Attribute.Composition
import SelectorSyntax.Proofs.Pseudo.Parts
import SelectorSyntax.Proofs.Report.Agreement

/-!
# The shortest vendor

A vendor's name may have hyphens of its own, and so may the name after it, so there may be several hyphens at which the
two can be parted.  The marked rule parts them at the first hyphen that leaves a name after it, because the characters
of the vendor's name are repeated lazily.  The preferred way through the rule is the shortest vendor among all ways to
read the text (`Pseudo.VendorParts.IsShortest`), although the characters are read with the longest escapes first: an
escape never reaches over a hyphen, and what it takes more than another reading of it was characters of the name, too
(`Derivation.exists_longest_before_hyphen`).
-/

namespace SelectorSyntax

open SelectorSyntax.Derivation

/-! ### Names before a hyphen -/

namespace Derivation

variable {P : Text → Prop} {x u r v : Text}

/-- The longest reading of a character ends before the hyphen after a name, and leaves characters of the name. -/
theorem exists_longest_before_hyphen (hP : ∀ x, P x → NameChar x) (hx : P x) (hu : Many NameChar u) (r : Text) :
    ∃ y w, Longest P (x ++ (u ++ '-' :: r)) y ∧ Many NameChar w ∧ x ++ u = y ++ w := by
  obtain ⟨y, hy⟩ := exists_longest hx (List.prefix_append x (u ++ '-' :: r))
  obtain ⟨z, rfl⟩ := hy.prefix_of hx (List.prefix_append ..)
  have hz : ∀ c ∈ z, IsHex c ∨ Text.isBlank c := (hP x hx).hex_or_blank_of_append (hP _ hy.holds)
  have hprefix : z <+: u ++ '-' :: r := (List.prefix_append_right_inj x).1 hy.isPrefix
  obtain ⟨w, rfl⟩ : z <+: u := by
    rcases prefix_append_cases hprefix with hzu | ⟨w, rfl, hw⟩
    · exact hzu
    · cases w with
      | nil => simp
      | cons c w =>
        -- the hyphen is neither a digit nor a blank
        obtain rfl := (List.cons_prefix_cons.1 hw).1
        exact absurd (hz '-' (by simp)) (by decide)
  exact ⟨x ++ z, w, hy, many_nameChar_of_append hz hu, by simp⟩

/-- The hyphen at the end of a vendor's mark is not escaped. -/
theorem VendorMark.unescaped (h : VendorMark v) : ¬ EndsOpen v.dropLast := by
  obtain ⟨w, hw, rfl⟩ := h.exists_many_nameChar
  rw [List.dropLast_concat]
  exact not_endsOpen_of_escaping (escaping_of_many_nameChar hw)

/-- A vendor's mark, with the longest reading of the character that its name begins with. -/
theorem VendorMark.exists_longest_start (h : VendorMark v) (r : Text) : ∃ m s u, (m = '-' ∨ m = '_') ∧
    Longest NameStart (s ++ (u ++ '-' :: r)) s ∧ Many NameChar u ∧ v = m :: (s ++ u ++ ['-']) := by
  obtain @⟨s, u, m, hm, hs, hu⟩ := h
  obtain ⟨y, w, hy, hw, heq⟩ := exists_longest_before_hyphen (fun _ h => h.nameChar) hs hu r
  rw [← List.append_assoc, heq, List.append_assoc] at hy
  exact ⟨m, y, w, hm, hy, hw, by rw [heq]⟩

end Derivation

/-! ### The shortest vendor -/

namespace Pseudo.VendorParts

variable {body : Text} {p q : VendorParts}

/-- The parts make up the text, parted at a hyphen that is not escaped, and no shorter vendor does with a rest of its
own. -/
structure IsShortest (p : VendorParts) (body : Text) : Prop where
  text_eq : p.vendor ++ p.rest = body
  isMark : VendorMark p.vendor
  unescaped : ¬ EndsOpen p.vendor.dropLast
  isRest : VendorRest p.rest
  shortest : ∀ v r, VendorMark v → VendorRest r → v ++ r = body → p.vendor.length ≤ v.length

theorem IsShortest.unique (hp : p.IsShortest body) (hq : q.IsShortest body) : p = q := by
  have hle := hp.shortest _ _ hq.isMark hq.isRest hq.text_eq
  have hge := hq.shortest _ _ hp.isMark hp.isRest hp.text_eq
  obtain ⟨hvendor, hrest⟩ := List.append_inj (hp.text_eq.trans hq.text_eq.symm) (by omega)
  cases p
  cases q
  simp_all

theorem exists_isShortest {v r : Text} (hv : VendorMark v) (hr : VendorRest r) :
    ∃ p : VendorParts, p.IsShortest (v ++ r) := by
  induction hn : v.length using Nat.strongRecOn generalizing v r with
  | ind n ih =>
    by_cases h : ∀ v' r', VendorMark v' → VendorRest r' → v' ++ r' = v ++ r → v.length ≤ v'.length
    · exact ⟨⟨v, r⟩, rfl, hv, hv.unescaped, hr, h⟩
    · push Not at h
      obtain ⟨v', r', hv', hr', heq, hlt⟩ := h
      rw [← heq]
      exact ih _ (by omega) hv' hr' rfl

end Pseudo.VendorParts

/-! ### The first way through the marked rule -/

namespace Rule

open Pattern Lexeme

variable {r s t u : Text} {m : Char}

theorem takesLongest_nameStart : nameStart.TakesLongest NameStart :=
  ⟨matches_nameStart, by decide +kernel, by decide +kernel, longestFirst_nameStart⟩

theorem takesLongest_nameChar : nameChar.TakesLongest NameChar :=
  ⟨matches_nameChar, by decide +kernel, by decide +kernel, longestFirst_nameChar⟩

theorem takesLongest_mark : (oneOf "-_").TakesLongest (One (· ∈ "-_".toList)) :=
  .of_prefixFree (matches_oneOf _) rfl rfl (prefixFree_one _)

theorem takesLongest_colons : colons.TakesLongest Derivation.Colons :=
  ⟨matches_colons, rfl, rfl, longestFirst_colons⟩

theorem longest_colons {c : Text} (hc : Derivation.Colons c) (ht : ∀ u, t ≠ ':' :: u) :
    Longest Derivation.Colons (c ++ t) c := by
  refine longest_of_eq_nil hc fun z hz hzt => ?_
  rcases eq_of_colons_append hc hz with rfl | rfl
  · rfl
  · obtain ⟨u, rfl⟩ := hzt
    exact absurd rfl (ht u)

theorem takesLongest_vendorRest : (Pattern.seq nameStart (star nameChar)).TakesLongest VendorRest :=
  ⟨matches_vendorRest, by decide +kernel, by decide +kernel, longestFirst_nameStart_star⟩

/-- The patterns after the lazy repetition. -/
def afterVendorName : List Pattern :=
  [char '-', .mark (.closes "vendor"), part "rest" (.seq nameStart (star nameChar)), atEnd]

theorem leads_afterVendorName (hr : VendorRest r) : Leads afterVendorName ('-' :: r)
    (Event.reads ['-'] ++ .note (.closes "vendor") :: Event.named "rest" (some r)) [] := by
  have hhyphen : Longest (· = ['-']) (['-'] ++ r) ['-'] := (prefixFree_eq ['-']).longest rfl (List.prefix_append ..)
  have hrest : Longest VendorRest (r ++ []) r := ⟨hr, List.prefix_append .., fun y _ hy => by simpa using hy.length_le⟩
  have hpart := Leads.part "rest" takesLongest_vendorRest hrest leads_atEnd
  rw [List.append_nil, List.append_nil] at hpart
  exact .longest (takesLongest_char '-') hhyphen (.mark hpart)

theorem fails_afterVendorName (h : ∀ r, VendorRest r → t ≠ '-' :: r) : Fails afterVendorName t := by
  refine .cons (by decide +kernel) fun x r hx heq => ?_
  rw [matches_char] at hx
  subst hx
  refine .mark (.cons (by decide +kernel) fun y r' hy heq' => fails_atEnd ?_)
  rintro rfl
  rw [matches_part, matches_vendorRest] at hy
  exact h y hy (by rw [heq, heq', List.append_nil]; rfl)

/-- The lazy repetition takes as little as possible. -/
theorem leads_vendorName (hu : Many NameChar u) (hr : VendorRest r)
    (hleast : ∀ w r', Many NameChar w → VendorRest r' → w ++ '-' :: r' = u ++ '-' :: r → u.length ≤ w.length) :
    Leads (.rounds false 0 none nameChar :: afterVendorName) (u ++ '-' :: r)
      (Event.reads u ++ (Event.reads ['-'] ++ .note (.closes "vendor") :: Event.named "rest" (some r))) [] := by
  -- by induction on the name: a round takes the longest character and leaves the shortest name after it
  induction hn : u.length using Nat.strongRecOn generalizing u with
  | ind n ih =>
    cases u with
    | nil => exact .stop (leads_afterVendorName hr)
    | cons c u =>
      obtain ⟨x, v, rfl, hx, hv⟩ := hu.exists_of_cons
      obtain ⟨y, w, hy, hw, heq⟩ := exists_longest_before_hyphen (fun _ h => h) hx hv r
      have hfails : Fails afterVendorName (c :: (x ++ v) ++ '-' :: r) := by
        refine fails_afterVendorName fun r' hr' heq' => ?_
        have hle := hleast [] r' .nil hr' heq'.symm
        simp at hle
      have hname : c :: (x ++ v) = y ++ w := by simpa using heq
      have hy : Longest NameChar (y ++ (w ++ '-' :: r)) y := by
        rwa [← List.append_assoc, heq, List.append_assoc] at hy
      have hy_ne : y ≠ [] := fun hnil => not_nameChar_nil (hnil ▸ hy.holds)
      rw [hname] at hfails hleast hn ⊢
      have hlen : w.length < n := by
        have hpos := List.length_pos_iff.2 hy_ne
        rw [List.length_append] at hn
        omega
      have hrest := ih w.length hlen hw (fun w' r' hw' hr' heq' => ?_) rfl
      · rw [List.append_assoc] at hfails ⊢
        rw [Event.reads_append, List.append_assoc]
        exact .round takesLongest_nameChar hy hy_ne hfails hrest
      · have hle := hleast (y ++ w') r' (.cons hy.holds hw') hr' (by rw [List.append_assoc, heq', List.append_assoc])
        simpa using hle

theorem leads_vendorParts {c body : Text} {p : Pseudo.VendorParts} (hc : Derivation.Colons c)
    (h : p.IsShortest body) : Leads [vendorParts, atEnd] (c ++ body)
      (Event.reads c ++ (Event.named "vendor" (some p.vendor) ++ Event.named "rest" (some p.rest))) [] := by
  obtain ⟨v, r⟩ := p
  obtain ⟨rfl, hv, -, hr, hleast⟩ := h
  obtain ⟨m, s, u, hm, hs, hu, rfl⟩ := hv.exists_longest_start r
  have hname := leads_vendorName hu hr fun w r' hw hr' heq => ?_
  · have hmark : Longest (One (· ∈ "-_".toList)) ([m] ++ (s ++ (u ++ '-' :: r))) [m] :=
      (prefixFree_one _).longest ⟨m, by simpa using hm, rfl⟩ (List.prefix_append ..)
    have hcolons : Longest Derivation.Colons (c ++ ([m] ++ (s ++ (u ++ '-' :: r)))) c :=
      longest_colons hc (Pseudo.mark_ne_colon hm)
    have hvendor : Leads ([oneOf "-_", nameStart, .rounds false 0 none nameChar, char '-'] ++
        [.mark (.closes "vendor"), part "rest" (.seq nameStart (star nameChar)), atEnd]) _ _ _ :=
      .longest takesLongest_mark hmark (.longest takesLongest_nameStart hs hname)
    have hparts := Leads.longest takesLongest_colons hcolons (.marked "vendor" hvendor.concat)
    have hall : Leads [vendorParts, atEnd] _ _ _ := Leads.concat hparts
    simpa [Event.named, Event.reads] using hall
  · have hle := hleast _ r' (.mk hm hs.holds hw) hr' (by simpa using heq)
    simpa using hle

end Rule

namespace Pseudo

variable {t : Text} {p : VendorParts}

namespace VendorParts

/-- The marked rule gives the shortest vendor. -/
theorem ofText?_of_isShortest {c body : Text} (hc : Derivation.Colons c) (h : p.IsShortest body) :
    ofText? (c ++ body) = some p := by
  simp [ofText?, Pattern.whole?_of_leads (Rule.leads_vendorParts hc h)]

theorem exists_ofText?_isShortest (h : VendorPseudo t) :
    ∃ p, ofText? t = some p ∧ p.IsShortest (t.dropWhile (· = ':')) := by
  obtain ⟨c, v, r, hc, hv, hr, rfl⟩ := vendorPseudo_iff.1 h
  obtain ⟨p, hp⟩ := exists_isShortest hv hr
  have hdrop : (c ++ (v ++ r)).dropWhile (· = ':') = v ++ r := by
    obtain ⟨hm, -, -⟩ := hv
    rcases hc with _ | _ <;> rcases hm with rfl | rfl <;> rfl
  rw [hdrop]
  exact ⟨p, ofText?_of_isShortest hc hp, hp⟩

theorem vendorPseudo_of_ofText? (h : ofText? t = some p) : VendorPseudo t := by
  obtain ⟨c, hc, hv, hr, heq⟩ := mark_and_rest h
  exact vendorPseudo_iff.2 ⟨c, _, _, hc, hv, hr, heq⟩

end VendorParts

/-- A pseudo with a vendor's mark is a pseudo, so it is taken apart. -/
theorem ofText_of_vendor (h : VendorPseudo t) : ofText t = .ok (some (split t)) := by
  have hkind := isKind_of_known (.inr (.vendor h))
  obtain ⟨c, hc, hcategory⟩ := Token.classification_of_isKind hkind
  have hpseudo : c.category.isPseudo = true := by
    simp only [Token.categoryAs, Option.some.injEq] at hcategory
    rw [← hcategory]
    split <;> rfl
  exact ofText_of_classification hc hpseudo

/-- The marked rule fits the pseudos with a vendor's mark and no other texts, and the vendor that it finds there is the
shortest one.  The vendor of a pseudo that is taken apart is this one. -/
theorem vendorParts_iff_shortest (t : Text) :
    ((∃ p, VendorParts.ofText? t = some p) ↔ Production.vendorPseudo.accepts t = true) ∧
    (∀ p, VendorParts.ofText? t = some p ↔
      Production.vendorPseudo.accepts t = true ∧ p.IsShortest (t.dropWhile (· = ':'))) ∧
    ∀ v, (∃ q, ofText t = .ok (some q) ∧ q.vendor = some v) ↔
      ∃ p, VendorParts.ofText? t = some p ∧ p.vendor = v := by
  simp only [Production.accepts_iff_derives, Production.Derives]
  refine ⟨⟨?_, ?_⟩, fun p => ⟨?_, ?_⟩, fun v => ⟨?_, ?_⟩⟩
  · rintro ⟨p, hp⟩
    exact VendorParts.vendorPseudo_of_ofText? hp
  · intro h
    obtain ⟨p, hp, -⟩ := VendorParts.exists_ofText?_isShortest h
    exact ⟨p, hp⟩
  · intro hp
    have h := VendorParts.vendorPseudo_of_ofText? hp
    obtain ⟨q, hq, hshortest⟩ := VendorParts.exists_ofText?_isShortest h
    obtain rfl : p = q := Option.some.inj (hp.symm.trans hq)
    exact ⟨h, hshortest⟩
  · rintro ⟨h, hp⟩
    obtain ⟨q, hq, hshortest⟩ := VendorParts.exists_ofText?_isShortest h
    rw [hp.unique hshortest, hq]
  · rintro ⟨q, hq, hv⟩
    obtain ⟨-, rfl⟩ := eq_split_of_ofText hq
    simpa [split] using hv
  · rintro ⟨p, hp, rfl⟩
    exact ⟨split t, ofText_of_vendor (VendorParts.vendorPseudo_of_ofText? hp), by simp [split, hp]⟩

/-- Of the hyphens the escaped one is skipped, and so are those before a hyphen or a digit. -/
example : VendorParts.ofText? ":-\\-x--1-y-z".toList = some ⟨"-\\-x--1-".toList, "y-z".toList⟩ := by
  decide +kernel

end Pseudo

end SelectorSyntax
