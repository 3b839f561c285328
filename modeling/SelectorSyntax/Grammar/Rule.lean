import SelectorSyntax.Grammar.Lexeme

/-!
# Rules of the selectors grammar

The grammar of Selectors Level 3, from combinators to groups of selectors, as patterns over the lexemes.  No rule
refers to itself, so each one is a pattern.  The order of alternatives matters only to the search for a match at
the beginning of a longer text.
-/

namespace SelectorSyntax.Rule

open Pattern Lexeme

/-- `combinator : PLUS S* | GREATER S* | TILDE S* | S+` -/
def combinator : Pattern :=
  .alt (.seq (choice [plusSign, greater, tilde]) optionalBlanks) blanks

/-- `namespace_prefix : [ IDENT | '*' ]? '|'` -/
def namespaceQualifier : Pattern :=
  .seq (optional (.alt ident (char '*'))) (char '|')

/-- `type_selector : [ namespace_prefix ]? IDENT` -/
def typeSelector : Pattern :=
  .seq (optional namespaceQualifier) ident

/-- `universal : [ namespace_prefix ]? '*'` -/
def universal : Pattern :=
  .seq (optional namespaceQualifier) (char '*')

/-- `class : '.' IDENT` -/
def classSelector : Pattern :=
  .seq (char '.') ident

/-- `HASH` -/
def idSelector : Pattern :=
  hash

/-- The operators between the name and the value of an attribute. -/
def attributeOperator : Pattern :=
  choice [leadMatch, endMatch, substringMatch, char '=', includes, dashMatch]

/-- An attribute selector from the patterns of its parts. -/
def bracketed (qualifier attributeName operator value : Pattern) : Pattern :=
  concat
    [char '[', optionalBlanks, optional qualifier, attributeName, optionalBlanks,
      optional (concat [operator, optionalBlanks, value, optionalBlanks]),
      char ']']

/-- `attrib : '[' S* [ namespace_prefix ]? IDENT S* [ operator S* [ IDENT | STRING ] S* ]? ']'` -/
def attrib : Pattern :=
  bracketed namespaceQualifier ident attributeOperator (.alt ident string)

/-- `attrib` with its parts marked. -/
def attribParts : Pattern :=
  bracketed (part "qualifier" namespaceQualifier) (part "name" ident) (part "operator" attributeOperator)
    (part "value" (.alt ident string))

/-- `expression : [ [ PLUS | '-' | DIMENSION | NUMBER | STRING | IDENT ] S* ]+` -/
def expression : Pattern :=
  plus (.seq (choice [plusSign, char '-', dimension, number, string, ident]) optionalBlanks)

/-- The argument of a function and the parenthesis after it. -/
def argument : Pattern :=
  concat [optionalBlanks, expression, char ')']

/-- `functional_pseudo : FUNCTION S* expression ')'` -/
def functionalPseudo : Pattern :=
  .seq function argument

/-- One colon or two. -/
def colons : Pattern :=
  .seq (char ':') (optional (char ':'))

/-- `pseudo : ':' ':'? [ IDENT | functional_pseudo ]`, where the identifier that both begin with is read first and
an argument is preferred to none. -/
def pseudo : Pattern :=
  concat [colons, ident, optional (.seq (char '(') argument)]

/-- `negation_arg : type_selector | universal | HASH | class | attrib | pseudo` -/
def negationArg : Pattern :=
  choice [typeSelector, universal, idSelector, classSelector, attrib, pseudo]

/-- `negation : NOT S* negation_arg S* ')'` -/
def negation : Pattern :=
  concat [Lexeme.not, optionalBlanks, negationArg, optionalBlanks, char ')']

/-- A simple selector that may follow others in its sequence. -/
def qualifier : Pattern :=
  choice [idSelector, classSelector, attrib, pseudo, negation]

/-- `[ type_selector | universal ]`, where the namespace that both may have is read first. -/
def elementSelector : Pattern :=
  .seq (optional namespaceQualifier) (.alt ident (char '*'))

/-- `simple_selector_sequence : [ type_selector | universal ] qualifier* | qualifier+` -/
def simpleSelectorSequence : Pattern :=
  .alt (.seq elementSelector (star qualifier)) (plus qualifier)

/-- `selector : simple_selector_sequence [ combinator simple_selector_sequence ]*` -/
def selector : Pattern :=
  .seq simpleSelectorSequence (star (.seq combinator simpleSelectorSequence))

/-- `selectors_group : selector [ COMMA S* selector ]*` -/
def selectorsGroup : Pattern :=
  .seq selector (star (concat [comma, optionalBlanks, selector]))

end SelectorSyntax.Rule
