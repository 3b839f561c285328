import SelectorSyntax.CharSet

/-!
# Patterns

Regular expressions over characters whose alternatives and repetitions are ordered: of two ways to match, the
one through the earlier alternative comes first, and a greedy repetition tries one more round before it stops,
a lazy one after.  A repetition has a least number of rounds and may have a greatest one.

`mark` reads nothing and leaves a note in the trail of a match, which is how the parts of an attribute or a
vendor name are found; `requires` reads nothing and is a condition on the place in the text.
-/

namespace SelectorSyntax

/-- A note left by a match: a named part begins or ends here. -/
inductive Mark
  | opens (part : String)
  | closes (part : String)
deriving DecidableEq, Repr

/-- What may be required of a place in the text. -/
inductive Condition
  | textStart
  | textEnd
  /-- The character before the place is part of a word, or it is not. -/
  | wordBefore (expected : Bool)
  /-- The character after the place is part of a word, or it is not. -/
  | wordAfter (expected : Bool)
deriving DecidableEq, Repr

inductive Pattern
  | empty
  | chars (set : CharSet)
  | seq (first second : Pattern)
  | alt (first second : Pattern)
  | rounds (greedy : Bool) (least : Nat) (most : Option Nat) (body : Pattern)
  | mark (m : Mark)
  | requires (condition : Condition)
deriving Repr, Inhabited

namespace Pattern

/-- Equality of patterns.  Patterns are built from shared parts, and a part is equal to itself without a look
inside.  Of two repetitions the numbers are compared first: while a repetition runs, these are what changes. -/
protected def decEq (p q : Pattern) : Decidable (p = q) :=
  if h : p.ctorIdx = q.ctorIdx then
    match p, q, h with
    | .empty, .empty, _ => isTrue rfl
    | .chars s, .chars t, _ => decidable_of_iff (s = t) (by simp)
    | .seq p₁ p₂, .seq q₁ q₂, _ =>
      match withPtrEqDecEq p₁ q₁ fun _ => Pattern.decEq p₁ q₁ with
      | isFalse h₁ => isFalse (by simp [h₁])
      | isTrue h₁ =>
        have := withPtrEqDecEq p₂ q₂ fun _ => Pattern.decEq p₂ q₂
        decidable_of_iff (p₂ = q₂) (by simp [h₁])
    | .alt p₁ p₂, .alt q₁ q₂, _ =>
      match withPtrEqDecEq p₁ q₁ fun _ => Pattern.decEq p₁ q₁ with
      | isFalse h₁ => isFalse (by simp [h₁])
      | isTrue h₁ =>
        have := withPtrEqDecEq p₂ q₂ fun _ => Pattern.decEq p₂ q₂
        decidable_of_iff (p₂ = q₂) (by simp [h₁])
    | .rounds g l m p, .rounds g' l' m' q, _ =>
      if h₁ : g = g' ∧ l = l' ∧ m.getD 0 = m'.getD 0 ∧ m.isSome = m'.isSome then
        have : m = m' := by cases m <;> cases m' <;> simp_all
        have := withPtrEqDecEq p q fun _ => Pattern.decEq p q
        decidable_of_iff (p = q) (by simp_all)
      else isFalse fun e => h₁ (by simp_all)
    | .mark m, .mark n, _ => decidable_of_iff (m = n) (by simp)
    | .requires c, .requires d, _ => decidable_of_iff (c = d) (by simp)
  else isFalse fun e => h (e ▸ rfl)

instance : DecidableEq Pattern := fun p q => withPtrEqDecEq p q fun _ => Pattern.decEq p q

/-- A single given character. -/
def char (c : Char) : Pattern :=
  .chars (.ofText [c])

/-- One of the characters of a text. -/
def oneOf (t : String) : Pattern :=
  .chars (.ofText t.toList)

/-- A character in one of the ranges. -/
def within (rs : List CharRange) : Pattern :=
  .chars (.ranges rs)

/-- A character in none of the ranges. -/
def outside (rs : List CharRange) : Pattern :=
  .chars (.outside rs)

/-- Patterns one after the other. -/
def concat : List Pattern → Pattern
  | [] => .empty
  | [p] => p
  | p :: ps => .seq p (concat ps)

/-- The first pattern that fits, in the order of the list. -/
def choice : List Pattern → Pattern
  | [] => within []
  | [p] => p
  | p :: ps => .alt p (choice ps)

/-- The characters of a text in order. -/
def word (t : String) : Pattern :=
  concat (t.toList.map char)

/-- The pattern, or nothing. -/
def optional (p : Pattern) : Pattern :=
  .alt p .empty

/-- Any number of rounds, as many as possible. -/
def star (p : Pattern) : Pattern :=
  .rounds true 0 none p

/-- One round or more, as many as possible. -/
def plus (p : Pattern) : Pattern :=
  .rounds true 1 none p

/-- The beginning of the text. -/
def atStart : Pattern :=
  .requires .textStart

/-- The end of the text. -/
def atEnd : Pattern :=
  .requires .textEnd

/-- The beginning of a word. -/
def wordStart : Pattern :=
  .seq (.requires (.wordBefore false)) (.requires (.wordAfter true))

/-- The end of a word. -/
def wordEnd : Pattern :=
  .seq (.requires (.wordBefore true)) (.requires (.wordAfter false))

/-- Either end of a word. -/
def wordEdge : Pattern :=
  .alt wordStart wordEnd

/-- A place inside a word, or outside of all words. -/
def noWordEdge : Pattern :=
  .alt (.seq (.requires (.wordBefore true)) (.requires (.wordAfter true)))
    (.seq (.requires (.wordBefore false)) (.requires (.wordAfter false)))

/-- The pattern with its text marked as the named part. -/
def part (name : String) (p : Pattern) : Pattern :=
  concat [.mark (.opens name), p, .mark (.closes name)]

end Pattern

end SelectorSyntax
