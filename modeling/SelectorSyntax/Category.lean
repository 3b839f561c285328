import SelectorSyntax.Text

/-!
# Categories

What a simple selector or combinator is, and the namespace it may carry.
-/

namespace SelectorSyntax

inductive Category
  | combinator
  | typeSelector
  | universal
  | classSelector
  | idSelector
  | attribute
  | negation
  | pseudoClass
  | pseudoElement
deriving DecidableEq, Repr

namespace Category

def all : List Category :=
  [.combinator, .typeSelector, .universal, .classSelector, .idSelector, .attribute, .negation, .pseudoClass,
    .pseudoElement]

/-- The name of the category, its words joined by hyphens. -/
def name : Category → String
  | .combinator => "combinator"
  | .typeSelector => "type"
  | .universal => "universal"
  | .classSelector => "class"
  | .idSelector => "id"
  | .attribute => "attribute"
  | .negation => "negation"
  | .pseudoClass => "pseudo-class"
  | .pseudoElement => "pseudo-element"

/-- The category of that name; names are compared as they are. -/
def ofName? (name : Text) : Option Category :=
  all.find? (·.name.toList == name)

/-- Whether selectors of the category may carry a namespace. -/
def takesNamespace : Category → Bool
  | .typeSelector | .universal | .attribute => true
  | _ => false

def isPseudo : Category → Bool
  | .pseudoClass | .pseudoElement => true
  | _ => false

end Category

/-- What a selector is, and the text before the bar that separates its namespace, if it has one. -/
structure Classification where
  category : Category
  qualifier : Option Text
deriving DecidableEq, Repr

end SelectorSyntax
