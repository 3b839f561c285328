import SelectorSyntax.Grammar.Argument
import SelectorSyntax.Pattern.Search

/-!
# Productions

The named rules that texts are checked against.  `Production.accepts` decides whether a whole text is an instance,
`Production.leadLength?` how much of the beginning of a text the first match takes.
-/

namespace SelectorSyntax

inductive Production
  | ident
  | string
  | namespaceQualifier
  | combinator
  | typeSelector
  | universal
  | classSelector
  | idSelector
  | attrib
  | expression
  | functionalPseudo
  | pseudo
  | negationArg
  | negation
  | simpleSelectorSequence
  | selector
  | selectorsGroup
  | nth
  | lang
  | vendorPseudo
deriving DecidableEq, Repr

namespace Production

/-- All productions, each after those it is built from. -/
def all : List Production :=
  [ident, string, namespaceQualifier, combinator, typeSelector, universal, classSelector, idSelector, attrib,
    expression, functionalPseudo, pseudo, negationArg, negation, simpleSelectorSequence, selector, selectorsGroup,
    nth, lang, vendorPseudo]

/-- The name of the production in the grammar. -/
def name : Production → String
  | ident => "ident"
  | string => "string"
  | namespaceQualifier => "namespace_prefix"
  | combinator => "combinator"
  | typeSelector => "type_selector"
  | universal => "universal"
  | classSelector => "class"
  | idSelector => "id"
  | attrib => "attrib"
  | expression => "expression"
  | functionalPseudo => "functional_pseudo"
  | pseudo => "pseudo"
  | negationArg => "negation_arg"
  | negation => "negation"
  | simpleSelectorSequence => "simple_selector_sequence"
  | selector => "selector"
  | selectorsGroup => "selectors_group"
  | nth => "nth"
  | lang => "lang"
  | vendorPseudo => "vendor_prefixed_pseudo"

def ofName? (name : String) : Option Production :=
  all.find? (·.name == name)

def pattern : Production → Pattern
  | ident => Lexeme.ident
  | string => Lexeme.string
  | namespaceQualifier => Rule.namespaceQualifier
  | combinator => Rule.combinator
  | typeSelector => Rule.typeSelector
  | universal => Rule.universal
  | classSelector => Rule.classSelector
  | idSelector => Rule.idSelector
  | attrib => Rule.attrib
  | expression => Rule.expression
  | functionalPseudo => Rule.functionalPseudo
  | pseudo => Rule.pseudo
  | negationArg => Rule.negationArg
  | negation => Rule.negation
  | simpleSelectorSequence => Rule.simpleSelectorSequence
  | selector => Rule.selector
  | selectorsGroup => Rule.selectorsGroup
  | nth => Rule.nth
  | lang => Rule.lang
  | vendorPseudo => Rule.vendorPseudo

/-- Whether the whole text is an instance of the production. -/
def accepts (p : Production) (text : Text) : Bool :=
  p.pattern.accepts text

/-- How many characters the first match at the beginning of the text takes. -/
def leadLength? (p : Production) (text : Text) : Option Nat :=
  p.pattern.leadLength? text

end Production

end SelectorSyntax
