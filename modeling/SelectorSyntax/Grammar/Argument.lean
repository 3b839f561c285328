import SelectorSyntax.Grammar.Lexeme
import SelectorSyntax.Grammar.Rule

/-!
# Arguments of pseudo-classes, and vendor names

The grammar lets any expression stand between the parentheses of a pseudo-class.  Here are the narrower rules for
the structural pseudo-classes (`an+b`, `odd`, `even`), for `:lang()`, and for names that carry a vendor's mark.
-/

namespace SelectorSyntax.Rule

open Pattern Lexeme

def integer : Pattern :=
  plus digit

def odd : Pattern :=
  concat [letterO, letterD, letterD]

def even : Pattern :=
  concat [letterE, letterV, letterE, letterN]

def sign : Pattern :=
  oneOf "-+"

/-- The argument `an+b`.  No blank may stand between a sign and the coefficient after it. -/
def nth : Pattern :=
  let coefficient := concat
    [optional sign, optional integer, letterN,
      optional (concat [optionalBlanks, sign, optionalBlanks, integer])]
  let constant := .seq (optional sign) integer
  concat [optionalBlanks, choice [coefficient, constant, odd, even], optionalBlanks]

/-- A whole pseudo-class `:lang(...)` with an identifier for its argument. -/
def lang : Pattern :=
  concat
    [char ':', oneOf "lL", oneOf "aA", oneOf "nN", oneOf "gG", char '(', ident, char ')']

/-- A pseudo whose name begins with a hyphen or underscore, a vendor's name and a hyphen. -/
def vendorPseudo : Pattern :=
  concat
    [colons, oneOf "-_", nameStart, star nameChar, char '-', nameStart, star nameChar]

/-- `vendorPseudo` with the shortest vendor part, up to its hyphen, and the rest marked. -/
def vendorParts : Pattern :=
  concat
    [colons,
      part "vendor" (concat [oneOf "-_", nameStart, .rounds false 0 none nameChar, char '-']),
      part "rest" (.seq nameStart (star nameChar))]

end SelectorSyntax.Rule
