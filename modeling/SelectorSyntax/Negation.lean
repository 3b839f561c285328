import SelectorSyntax.Pseudo

/-!
# Negations

The selector inside a negation, and its category.  Neither a negation nor a pseudo-element may be negated.
-/

namespace SelectorSyntax

structure Negation where
  selector : Text
  category : Category
deriving DecidableEq, Repr

namespace Negation

/-- Whether a selector of the category may stand in a negation. -/
def allows : Category → Bool
  | .negation | .pseudoElement => false
  | _ => true

/-- The text between the parentheses, without the blanks at its ends. -/
def innerText? (t : Text) : Option Text :=
  (Pseudo.argumentOf? t).map Text.trim

/-- The selector inside a negation; of the empty text there is none. -/
def ofText (t : Text) : Except SelectorError (Option Negation) :=
  if t.isEmpty then .ok none
  else
    match Classification.ofText t with
    | .error e => .error e
    | .ok c =>
      if c.category = .negation then
        match innerText? t with
        | none => .error (.noMatch t)
        | some inner =>
          match Classification.ofText inner with
          | .error e => .error e
          | .ok found =>
            if allows found.category then .ok (some ⟨inner, found.category⟩)
            else .error (.forbiddenNesting inner found.category)
      else .error (.wrongCategory .negation c.category t)

end Negation

end SelectorSyntax
