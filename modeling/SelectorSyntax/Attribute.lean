import SelectorSyntax.Attribute.Parts
import SelectorSyntax.Classification

/-!
# Attributes

An attribute selector taken apart: namespace, name, operator and value, the value without its quotes.
-/

namespace SelectorSyntax

structure Attribute where
  qualifier : Option Text
  name : Text
  operator : Option Attribute.Operator
  value : Option Text
deriving DecidableEq, Repr

namespace Attribute

/-- What stands between two equal quotes. -/
def between? (quote : Char) : Text → Option Text
  | [] => none
  | c :: t => if c = quote then Text.dropEnd? quote t else none

/-- Removes one pair of matching quotes. -/
def unquote (value : Text) : Text :=
  (between? '"' value).getD ((between? '\'' value).getD value)

def ofParts (p : Parts) : Attribute where
  qualifier := p.namespaceName
  name := p.name
  operator := p.operator.bind Operator.ofSymbol?
  value := p.value.map unquote

/-- The parts of an attribute selector; of the empty text there are none. -/
def ofText (t : Text) : Except SelectorError (Option Attribute) :=
  if t.isEmpty then .ok none
  else
    match Classification.ofText t with
    | .error e => .error e
    | .ok c =>
      if c.category = .attribute then
        match Parts.ofText? t with
        | some parts => .ok (some (ofParts parts))
        | none => .error (.noMatch t)
      else .error (.wrongCategory .attribute c.category t)

end Attribute

end SelectorSyntax
