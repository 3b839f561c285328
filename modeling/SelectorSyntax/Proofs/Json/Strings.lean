import SelectorSyntax.Json.Reader

/-!
# Written strings

What `Json.escape` writes is read back, both between quotes (`stringBody?_escape`) and as a text (`unescape?_escape`).
A character is written in one of three ways (`escapeChar_cases`): a backslash and a letter, four hexadecimal digits,
or the character itself.  Each of these is taken as a whole by both readers, so the texts follow by induction.
-/

namespace SelectorSyntax.Json

/-! ### Characters -/

theorem hexValue?_hexDigit (n : Nat) : hexValue? (hexDigit n) = some (n % 16) := by
  have hdigit : ∀ m < 16, hexValue? (Nat.digitChar m) = some m := by decide
  exact hdigit (n % 16) (Nat.mod_lt n (by decide))

theorem unit?_hexDigit {n : Nat} (hn : n < 256) : unit? '0' '0' (hexDigit (n / 16)) (hexDigit n) = some n := by
  have hzero : hexValue? '0' = some 0 := by decide
  simp only [unit?, hzero, hexValue?_hexDigit, Option.pure_def, Option.bind_eq_bind, Option.bind_some,
    Option.some.injEq]
  omega

/-- The ways in which a character is written. -/
theorem escapeChar_cases (c : Char) :
    (∃ e, escapeChar c = ['\\', e] ∧ e ≠ 'u' ∧ shortEscape? e = some c) ∨
    (escapeChar c = ['\\', 'u', '0', '0', hexDigit (c.toNat / 16), hexDigit c.toNat] ∧ c.toNat < 0x20) ∨
    (escapeChar c = [c] ∧ c ≠ '"' ∧ c ≠ '\\' ∧ ¬ c.toNat < 0x20) := by
  by_cases hquote : c = '"'
  · subst hquote
    exact .inl ⟨'"', rfl, by decide, rfl⟩
  by_cases hbackslash : c = '\\'
  · subst hbackslash
    exact .inl ⟨'\\', rfl, by decide, rfl⟩
  by_cases hb : c = '\x08'
  · subst hb
    exact .inl ⟨'b', rfl, by decide, rfl⟩
  by_cases hf : c = '\x0c'
  · subst hf
    exact .inl ⟨'f', rfl, by decide, rfl⟩
  by_cases hn : c = '\n'
  · subst hn
    exact .inl ⟨'n', rfl, by decide, rfl⟩
  by_cases hr : c = '\r'
  · subst hr
    exact .inl ⟨'r', rfl, by decide, rfl⟩
  by_cases ht : c = '\t'
  · subst ht
    exact .inl ⟨'t', rfl, by decide, rfl⟩
  rw [escapeChar, if_neg hquote, if_neg hbackslash, if_neg hb, if_neg hf, if_neg hn, if_neg hr, if_neg ht]
  by_cases hcontrol : c.toNat < 0x20
  · rw [if_pos hcontrol]
    exact .inr (.inl ⟨rfl, hcontrol⟩)
  · rw [if_neg hcontrol]
    exact .inr (.inr ⟨rfl, hquote, hbackslash, hcontrol⟩)

theorem unescape?_escapeChar_append (c : Char) (t : Text) :
    unescape? (escapeChar c ++ t) = (unescape? t).map (c :: ·) := by
  obtain ⟨e, hc, hu, he⟩ | ⟨hc, hcontrol⟩ | ⟨hc, -, hbackslash, -⟩ := escapeChar_cases c
  · rw [hc, List.cons_append, List.singleton_append, unescape?, he]
    exact fun _ _ _ _ _ h => absurd h hu
  · -- a control character is no half of another
    have hlow : isLowHalf c.toNat = false := by
      simp only [isLowHalf, Bool.and_eq_false_iff, decide_eq_false_iff_not]
      omega
    have hhigh : isHighHalf c.toNat = false := by
      simp only [isHighHalf, Bool.and_eq_false_iff, decide_eq_false_iff_not]
      omega
    rw [hc]
    simp only [List.cons_append, List.nil_append]
    rw [unescape?, unit?_hexDigit (by omega)]
    simp only [hlow, hhigh, Bool.false_eq_true, if_false, Char.ofNat_toNat]
  · rw [hc, List.singleton_append, unescape?]
    · exact fun _ _ _ _ _ h => absurd h hbackslash
    · exact fun _ _ h => absurd h hbackslash
    · exact fun h => absurd h hbackslash

theorem stringBody?_escapeChar_append (c : Char) (t : Text) :
    stringBody? (escapeChar c ++ t) = (stringBody? t).map fun (s, rest) => (escapeChar c ++ s, rest) := by
  obtain ⟨e, hc, hu, he⟩ | ⟨hc, hcontrol⟩ | ⟨hc, hquote, hbackslash, hcontrol⟩ := escapeChar_cases c
  · rw [hc, List.cons_append, List.singleton_append, stringBody?, he]
    · rfl
    · exact fun _ _ _ _ _ h => absurd h hu
  · rw [hc]
    simp only [List.cons_append, List.nil_append]
    rw [stringBody?, unit?_hexDigit (by omega)]
    rfl
  · rw [hc, List.singleton_append, stringBody?, if_neg hcontrol]
    · rfl
    · exact fun h => absurd h hquote
    · exact fun _ _ _ _ _ h => absurd h hbackslash
    · exact fun _ _ h => absurd h hbackslash
    · exact fun h => absurd h hbackslash

/-! ### Texts -/

/-- The text of what is written for a text is that text. -/
@[simp]
theorem unescape?_escape (t : Text) : unescape? (escape t) = some t := by
  induction t with
  | nil => rfl
  | cons c t ih =>
    rw [escape, List.flatMap_cons, unescape?_escapeChar_append, ← escape, ih, Option.map_some]

/-- A written string ends at its quote: none of its own quotes is taken for it. -/
theorem stringBody?_escape (t rest : Text) : stringBody? (escape t ++ '"' :: rest) = some (escape t, rest) := by
  induction t with
  | nil => rfl
  | cons c t ih =>
    rw [escape, List.flatMap_cons, List.append_assoc, stringBody?_escapeChar_append, ← escape, ih, Option.map_some]

end SelectorSyntax.Json
