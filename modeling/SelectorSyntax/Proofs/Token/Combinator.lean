import SelectorSyntax.Proofs.Token.Elements
import SelectorSyntax.Proofs.Token.Kind

/-!
# What a combinator ends

A simple selector is not read on into a combinator.  If a longer token goes on after it with a character of
combinators, then the two are in the middle of a name, and the character is the blank that an escape ends with
(`Token.Accepted.inName`): brackets and strings are closed in a simple selector, so no longer token was
only begun there.
-/

namespace SelectorSyntax

open SelectorSyntax.Derivation

/-! ### Names -/

namespace Derivation

variable {c : Char} {i w : Text}

/-- A character of combinators in a name is a blank. -/
theorem isBlank_of_name (hi : Escaping (fun _ => True) i) (hc : IsCombinatorChar c) (h : Many NameChar (i ++ c :: w)) :
    Escaping IsNameInner i ∧ Text.isBlank c := by
  have hwhole := escaping_of_many_nameChar h
  have hinner : Escaping IsNameInner i := hi.left hwhole
  refine ⟨hinner, ?_⟩
  rcases hinner.allowed_of_append hwhole with rfl | hplain | hblank
  · exact absurd hc (by decide)
  · exact absurd hc (not_isCombinatorChar (.inl hplain))
  · exact hblank

end Derivation

namespace Token

variable {c d : Char} {a i t u w x z : Text}

/-- The text is in the middle of a name at the character: it is a blank, and every blank that can end an escape in its
place makes a token of the text. -/
def InName (x : Text) (c : Char) : Prop :=
  Text.isBlank c ∧ ∀ b, EndsAs b c → Accepted (x ++ [b])

theorem inName_of_many (hi : Escaping (fun _ => True) i) (hc : IsCombinatorChar c) (h : Many NameChar (i ++ c :: w))
    (ha : ∀ b, Escaping IsNameInner i → Text.isBlank c → EndsAs b c → Accepted (a ++ (i ++ [b]))) :
    InName (a ++ i) c := by
  obtain ⟨hinner, hblank⟩ := isBlank_of_name hi hc h
  refine ⟨hblank, fun b hb => ?_⟩
  rw [List.append_assoc]
  exact ha b hinner hblank hb

theorem inName_of_ident (hi : Escaping (fun _ => True) i) (hc : IsCombinatorChar c) (h : Ident (i ++ c :: w))
    (ha : ∀ j, Ident j → Accepted (a ++ j)) : InName (a ++ i) c :=
  inName_of_many hi hc h.many_nameChar fun _ hinner hblank hb => ha _ (h.of_endsAs hinner hblank hb)

theorem inName_of_localName {n : Text} (hn : Maybe NamespaceQualifier n) (hi : Escaping (fun _ => True) i)
    (hc : IsCombinatorChar c) (h : LocalName (i ++ c :: w)) : InName (n ++ i) c := by
  rcases h with h | h
  · exact inName_of_ident hi hc h fun j hj => accepted_of_element hn (.inl hj)
  · cases i with
    | nil =>
      obtain rfl := (List.cons.inj h).1
      exact absurd hc (by decide)
    | cons e i => simp at h

/-- In a namespace the character stands in the identifier before the bar. -/
theorem inName_of_namespace (hx : Escaping (fun _ => True) x) (hne : x ≠ []) (hc : IsCombinatorChar c)
    (h : NamespaceQualifier (x ++ c :: w)) : InName x c := by
  have hbar : c ≠ '|' := by
    rintro rfl
    exact absurd hc (by decide)
  generalize hn : x ++ c :: w = n at h
  rcases h with _ | @⟨j, hj⟩ | _
  · cases x with
    | nil => exact absurd rfl hne
    | cons e x => simp at hn
  · obtain ⟨v, rfl⟩ : ∃ v, j = x ++ c :: v := by
      rcases List.eq_nil_or_concat w with rfl | ⟨v, d, rfl⟩
      · exact absurd (List.append_inj_right' hn rfl) (by simpa using hbar)
      · refine ⟨v, ?_⟩
        rw [List.concat_eq_append, ← List.cons_append, ← List.append_assoc] at hn
        exact (List.append_inj_left' hn rfl).symm
    exact inName_of_ident (a := []) hx hc hj fun j hj => .of_element (.inl (.mk .absent hj))
  · match x with
    | [] => exact absurd rfl hne
    | [e] => exact absurd (List.cons.inj (List.cons.inj hn).2).1 hbar
    | _ :: _ :: x => simp at hn

theorem inName_of_element (hx : Escaping (fun _ => True) x) (hne : x ≠ []) (hc : IsCombinatorChar c)
    (h : TypeSelector (x ++ c :: z) ∨ Universal (x ++ c :: z)) : InName x c := by
  obtain ⟨n, y, hn, hy, heq⟩ := element_iff.1 h
  have hn_escaping : Escaping (fun _ => True) n :=
    (balanced_of_maybe (fun _ => NamespaceQualifier.balanced) hn).escaping
  rcases List.append_eq_append_iff.1 heq with ⟨a, rfl, hcz⟩ | ⟨i, rfl, rfl⟩
  · cases a with
    | nil =>
      obtain rfl : c :: z = y := hcz
      simpa using inName_of_localName hn .nil hc hy
    | cons e a =>
      obtain rfl := (List.cons.inj hcz).1
      obtain ⟨d, u, rfl⟩ := List.exists_cons_of_ne_nil hne
      exact inName_of_namespace hx hne hc hn.of_cons
  · exact inName_of_localName hn (hn_escaping.right hx) hc hy

/-- A call that goes on after the character has it before the bracket. -/
theorem exists_name_of_called (hx : Balanced x) (hc : IsCombinatorChar c) (h : Called (x ++ c :: z)) :
    ∃ e i w, Derivation.Colons e ∧ Ident i ∧ e ++ i = x ++ c :: w := by
  generalize ht : x ++ c :: z = t at h
  obtain @⟨e, i, u, he, hi, hu⟩ := h
  have hname : Escaping IsCallChar (e ++ i) := he.escaping.append (hi.escaping.mono fun _ => .inr)
  obtain ⟨w, hw⟩ := Balanced.exists_of_brackets (fun _ => IsCallChar.not_isMarker) hname (.inl rfl) hu (.inl rfl) hx
    hc.not_isOpening ht
  exact ⟨e, i, w, he, hi, hw⟩

theorem inName_of_colon (hx : Balanced (':' :: u)) (hc : IsCombinatorChar c) (h : Accepted (':' :: (u ++ c :: z))) :
    InName (':' :: u) c := by
  obtain ⟨e, i, w, he, hi, heq⟩ : ∃ e i w, Derivation.Colons e ∧ Ident i ∧ e ++ i = ':' :: u ++ c :: w := by
    rcases h.of_colon with hcalled | ⟨e, i, he, hi, heq⟩
    · exact exists_name_of_called hx hc hcalled
    · exact ⟨e, i, z, he, hi, heq.symm⟩
  have hcolon : c ∉ e := by
    intro hmem
    obtain rfl : c = ':' := by rcases he with _ | _ <;> simpa using hmem
    exact absurd hc (by decide)
  rcases List.append_eq_append_iff.1 heq with ⟨a, ha, rfl⟩ | ⟨a, rfl, ha⟩
  · have hescaping : Escaping (fun _ => True) (e ++ a) := ha ▸ hx.escaping
    have ha_escaping := (he.escaping.mono fun _ _ => trivial).right hescaping
    rw [ha]
    exact inName_of_ident ha_escaping hc hi fun j hj => .of_qualifier (.pseudo (.ident he hj))
  · cases a with
    | nil =>
      obtain rfl : c :: w = i := ha
      simpa using inName_of_ident (a := ':' :: u) .nil hc hi fun j hj =>
        .of_qualifier (.pseudo (.ident (by simpa using he) hj))
    | cons d a =>
      obtain rfl := (List.cons.inj ha).1
      exact absurd (by simp) hcolon

/-- The bracket of an attribute selector is closed in whole tokens already. -/
theorem not_attrib_of_balanced (hu : Balanced ('[' :: u)) (hc : IsCombinatorChar c) :
    ¬ Attrib ('[' :: u ++ c :: z) := by
  intro h
  have hbracketed := h.bracketed fun _ => False
  generalize ht : '[' :: u ++ c :: z = t at hbracketed
  obtain ⟨ha, ho, hv, hd⟩ := hbracketed
  obtain ⟨w, rfl⟩ := Balanced.exists_of_brackets (fun _ h => h.elim) ha ho hv hd hu hc.not_isOpening ht
  exact ((escaping_cons_iff (by decide)).1 ha).1

/-- A token that goes on with a character of combinators, after whole tokens that begin with another one, is in the
middle of a name there. -/
theorem Accepted.inName (h : Accepted (d :: u ++ c :: z)) (hd : ¬ IsCombinatorChar d) (hu : Balanced (d :: u))
    (hc : IsCombinatorChar c) : InName (d :: u) c := by
  rcases h.of_head with ⟨-, hx⟩ | ⟨rfl, hn⟩ | ⟨rfl, hi⟩ | ⟨rfl, hx⟩ | ⟨rfl, -⟩ | ⟨hd', -⟩
  · exact inName_of_element hu.escaping (List.cons_ne_nil _ _) hc hx
  · have hescaping := (escaping_cons_iff (by decide)).1 hu.escaping
    exact inName_of_many (a := ['#']) hescaping.2 hc hn.many fun b hinner hblank hb =>
      .of_qualifier (.idSelector (.mk (hn.of_endsAs hinner hblank hb)))
  · have hescaping := (escaping_cons_iff (by decide)).1 hu.escaping
    exact inName_of_ident (a := ['.']) hescaping.2 hc hi fun j hj => .of_qualifier (.classSelector (.mk hj))
  · exact absurd hx (not_attrib_of_balanced hu hc)
  · exact inName_of_colon hu hc h
  · exact absurd hd' hd

/-! ### Pieces -/

section

variable {left : Text} {p : Production} {ps : List (Production × Text)}

/-- No simple selector begins with a character of combinators. -/
theorem IsKind.not_isCombinatorChar (h : IsKind p (d :: u)) (hp : p ≠ .combinator) :
    ¬ IsCombinatorChar d := by
  rcases head_of_derives h.mem h.derives with h | ⟨c, v, heq, hc⟩
  · exact absurd h hp
  · exact (List.cons.inj heq).1 ▸ not_isCombinatorChar_of_head hc

theorem Cut.isKind (h : Cut t ps left) : ∀ piece ∈ ps, IsKind piece.1 piece.2 := by
  induction h with
  | stop _ => exact fun _ hmem => nomatch hmem
  | step hx _ ih => exact List.forall_mem_cons.2 ⟨hx.isKind, ih⟩

theorem text_of_simple (hp : p ≠ .combinator) : (ofPiece (p, x)).text = x := by
  simp [ofPiece, text, isCombinator, hp]

/-- A combinator is written as its symbol, or as a space for its blanks. -/
theorem text_of_combinator (hx : Combinator x) : ∃ c, (ofPiece (.combinator, x)).text = [c] ∧
    (c = ' ' ∧ Blanks x ∨ (c = '+' ∨ c = '>' ∨ c = '~') ∧ ∃ a b, Blanks a ∧ Blanks b ∧ x = a ++ c :: b) := by
  rcases hx.trim_eq with ⟨hblanks, htrim⟩ | ⟨a, b, c, ha, hc, hb, heq, htrim⟩
  · exact ⟨' ', by simp [ofPiece, text, isCombinator, htrim], .inl ⟨rfl, hblanks⟩⟩
  · exact ⟨c, by simp [ofPiece, text, isCombinator, htrim], .inr ⟨hc, a, b, ha, hb, heq⟩⟩

end

end Token

end SelectorSyntax
