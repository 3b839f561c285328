import SelectorSyntax.Production

/-!
# Parts of an attribute selector

The four marked parts of `[qualifier name operator value]` as they are written, and the operators.
-/

namespace SelectorSyntax

namespace Attribute

inductive Operator
  | equals
  | includes
  | dashMatch
  | leadMatch
  | endMatch
  | substringMatch
deriving DecidableEq, Repr

namespace Operator

def all : List Operator :=
  [equals, includes, dashMatch, leadMatch, endMatch, substringMatch]

def symbol : Operator → String
  | equals => "="
  | includes => "~="
  | dashMatch => "|="
  | leadMatch => "^="
  | endMatch => "$="
  | substringMatch => "*="

def ofSymbol? (symbol : Text) : Option Operator :=
  all.find? (·.symbol.toList == symbol)

end Operator

/-- The parts of an attribute selector as written: the qualifier ends with its bar, and quotes are kept. -/
structure Parts where
  qualifier : Option Text
  name : Text
  operator : Option Text
  value : Option Text
deriving DecidableEq, Repr

namespace Parts

/-- The parts of a text that is an attribute selector. -/
def ofText? (t : Text) : Option Parts := do
  let trail ← Rule.attribParts.whole? t
  let name ← Event.part? "name" trail
  return {
    qualifier := Event.part? "qualifier" trail
    name
    operator := Event.part? "operator" trail
    value := Event.part? "value" trail }

/-- The namespace: the qualifier without its bar. -/
def namespaceName (p : Parts) : Option Text :=
  p.qualifier.map fun q => (Text.dropEnd? '|' q).getD q

end Parts

end Attribute

end SelectorSyntax
