import SelectorSyntax.Production
import SelectorSyntax.Vocabulary.Attributes
import SelectorSyntax.Vocabulary.Elements

/-!
# Vocabularies

Which language defines the name of an element or attribute.  Listed names compare up to ASCII case, and the
first list that has the name wins.  Authors add elements in lower case with a hyphen, and attributes that begin
with `data-`.
-/

namespace SelectorSyntax

inductive Vocabulary
  | html
  | svg
  | math
  | aria
  | customElement
  | dataAttribute
deriving DecidableEq, Repr

namespace Vocabulary

def all : List Vocabulary :=
  [html, svg, math, aria, customElement, dataAttribute]

def name : Vocabulary → String
  | html => "HTML"
  | svg => "SVG"
  | math => "MathML"
  | aria => "WAI-ARIA"
  | customElement => "custom element"
  | dataAttribute => "data attribute"

/-- The vocabulary whose list has the name of an element. -/
def listedElement? (name : Text) : Option Vocabulary :=
  if Text.isListed htmlElements name then some html
  else if Text.isListed svgElements name then some svg
  else if Text.isListed mathElements name then some math
  else none

/-- Words of lower case letters joined by hyphens, at least two. -/
def customElementName : Pattern :=
  let letters := Pattern.plus (.within [.between 'a' 'z'])
  .seq (.plus (.seq letters (.char '-'))) letters

def ofElement? (name : Text) : Option Vocabulary :=
  (listedElement? name).or
    (if customElementName.accepts name then some customElement else none)

/-- Whether a name is `data-` and something after it. -/
def isDataName (name : Text) : Bool :=
  Text.sameIgnoringCase "data-".toList (name.take 5) && name.length > 5

def ofAttribute? (name : Text) : Option Vocabulary :=
  if Text.isListed htmlAttributes name then some html
  else if Text.isListed svgAttributes name then some svg
  else if Text.isListed mathAttributes name then some math
  else if Text.isListed ariaAttributes name then some aria
  else if isDataName name then some dataAttribute
  else none

end Vocabulary

end SelectorSyntax
