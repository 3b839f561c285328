import SelectorSyntax.Attribute
import SelectorSyntax.Negation
import SelectorSyntax.Vocabulary

/-!
# Validation

A simple selector or combinator is judged by the grammar and the tables of pseudos.  A strict judgement also
asks whether a document language knows the name of an element or attribute; it asks through `ask`, in any monad,
and at most once.

The answers of HTML and its companions are `Question.knownToHtml`.
-/

namespace SelectorSyntax

/-- What a strict judgement asks about. -/
inductive Question
  | element (name : Text)
  | attribute (name : Text)
deriving DecidableEq, Repr

/-- Whether HTML, SVG, MathML or WAI-ARIA define the name, or leave it to authors. -/
def Question.knownToHtml : Question → Bool
  | .element name => (Vocabulary.ofElement? name).isSome
  | .attribute name => (Vocabulary.ofAttribute? name).isSome

/-- Whether the text is a group of one selector or more. -/
def isValidGroup (t : Text) : Bool :=
  !t.isEmpty && Production.selectorsGroup.accepts t

/-- How a validator is set up: who answers its questions, and which engine it can ask instead of the grammar. -/
structure Validator (m : Type → Type) where
  strict : Option (Question → m Bool)
  engine : Option (Text → m Bool)

namespace Validator

variable {m : Type → Type} [Monad m]

/-- The grammar alone. -/
def lenient : Validator m :=
  ⟨none, none⟩

/-- The grammar and the names known to HTML. -/
def html : Validator m :=
  ⟨some fun q => pure q.knownToHtml, none⟩

def isStrict (v : Validator m) : Bool :=
  v.strict.isSome

/-- The answer to a question, which is yes where nobody is asked. -/
def ask (v : Validator m) (q : Question) : m Bool :=
  match v.strict with
  | some answer => answer q
  | none => pure true

/-- Judges a selector of the given category that is not inside a negation; negations are refused. -/
def judgeUnnegated (v : Validator m) (t : Text) : Category → m Bool
  | .typeSelector => v.ask (.element (QualifiedName.ofText t).name)
  | .attribute =>
    match Attribute.ofText t with
    | .ok (some a) => v.ask (.attribute a.name)
    | _ => pure false
  | .universal | .classSelector | .idSelector | .combinator => pure true
  | .pseudoClass => pure (Pseudo.isValidClass t)
  | .pseudoElement => pure (Pseudo.isValidElement t)
  | .negation => pure false

/-- Judges a simple selector or combinator.  A negation is as valid as the selector in it, which is no negation. -/
def judge (v : Validator m) (t : Text) : m Bool :=
  match Classification.ofText t with
  | .error _ => pure false
  | .ok c =>
    if c.category = .negation then
      match Negation.ofText t with
      | .ok (some inner) => v.judgeUnnegated inner.selector inner.category
      | _ => pure false
    else v.judgeUnnegated t c.category

/-- The engine's own judgement, if there is an engine. -/
def quick (v : Validator m) (t : Text) : m (Option Bool) :=
  match v.engine with
  | some accepts => do return some (← accepts t)
  | none => pure none

/-- A one-line account of the settings. -/
def describe (v : Validator m) : Text :=
  let word (b : Bool) := (if b then "true" else "false").toList
  "Validator \x7b strict_mode: ".toList ++ word v.strict.isSome ++ ", engine: ".toList ++ word v.engine.isSome
    ++ " \x7d".toList

end Validator

/-- Whether the text is a valid simple selector or combinator; if `strict`, with names known to HTML. -/
def isValidSelector (strict : Bool) (t : Text) : Bool :=
  Id.run ((if strict then Validator.html else Validator.lenient).judge t)

/-- Whether a type selector names a known or custom element.  Its namespace does not matter. -/
def isKnownElement (t : Text) : Bool :=
  (Vocabulary.ofElement? (QualifiedName.ofText t).name).isSome

/-- Whether the text is an attribute selector with a known name. -/
def isKnownAttribute (t : Text) : Bool :=
  match Attribute.ofText t with
  | .ok (some a) => (Vocabulary.ofAttribute? a.name).isSome
  | _ => false

end SelectorSyntax
