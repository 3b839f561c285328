import SelectorSyntax.Attribute.Parts
import SelectorSyntax.Error
import SelectorSyntax.Pseudo.Table
import SelectorSyntax.QualifiedName

/-!
# Classification

The category of a simple selector or combinator is that of the first production that accepts it.  A negation is
also a pseudo by the letter of the grammar, so negations are tried first; a pseudo is an element or a class by
its form.
-/

namespace SelectorSyntax.Classification

/-- The productions in the order in which they are tried, before pseudos. -/
def order : List (Production × Category) :=
  [(.combinator, .combinator), (.typeSelector, .typeSelector), (.universal, .universal),
    (.classSelector, .classSelector), (.idSelector, .idSelector), (.attrib, .attribute), (.negation, .negation)]

def categoryOf? (t : Text) : Option Category :=
  match order.find? fun (production, _) => production.accepts t with
  | some (_, category) => some category
  | none =>
    if Production.pseudo.accepts t then
      some (if Pseudo.hasElementForm t then .pseudoElement else .pseudoClass)
    else none

/-- The namespace of a selector of the given category. -/
def qualifierOf (t : Text) : Category → Option Text
  | .typeSelector | .universal => (QualifiedName.ofText t).qualifier
  | .attribute => (Attribute.Parts.ofText? t).bind (·.namespaceName)
  | _ => none

/-- The classification of a simple selector or combinator.  The empty text is neither. -/
def ofText (t : Text) : Except SelectorError Classification :=
  if t.isEmpty then .error (.noMatch t)
  else
    match categoryOf? t with
    | some category => .ok ⟨category, qualifierOf t category⟩
    | none => .error (.noMatch t)

end SelectorSyntax.Classification
