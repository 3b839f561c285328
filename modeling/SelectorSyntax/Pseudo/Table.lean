import SelectorSyntax.Production

/-!
# Known pseudo-classes and pseudo-elements

The names that CSS defines, and when a pseudo written with one of them is valid.  Names compare up to ASCII case.
A pseudo with a vendor's mark and without an argument is always valid.
-/

namespace SelectorSyntax.Pseudo

/-- The pseudo-elements that may also be written with a single colon. -/
def legacyElements : List String :=
  ["first-line", "first-letter", "before", "after"]

/-- The pseudo-classes without an argument. -/
def simpleClasses : List String :=
  ["root", "first-child", "last-child", "first-of-type", "last-of-type", "only-child", "only-of-type", "empty",
    "link", "visited", "active", "hover", "focus", "target", "enabled", "disabled", "checked"]

/-- The pseudo-classes with an argument `an+b`. -/
def nthClasses : List String :=
  ["nth-child", "nth-last-child", "nth-of-type", "nth-last-of-type"]

/-- The pseudo-elements with their colons. -/
def elements : List String :=
  [":first-line", ":first-letter", ":before", ":after",
    "::first-line", "::first-letter", "::before", "::after"]

/-- Two colons make a pseudo-element, and so does one colon before a legacy name. -/
def hasElementForm : Text → Bool
  | ':' :: ':' :: _ => true
  | ':' :: name => Text.isListed legacyElements name
  | _ => false

/-- Whether the argument fits the pseudo-class of that name; `whole` is the pseudo-class with both. -/
def acceptsArgument (whole name argument : Text) : Bool :=
  if Text.sameIgnoringCase "lang".toList name then Production.lang.accepts whole
  else Text.isListed nthClasses name && Production.nth.accepts argument

def isValidClass (t : Text) : Bool :=
  match t with
  | ':' :: ':' :: _ => false
  | ':' :: body =>
    match Text.cutAt? '(' body with
    | some (name, rest) =>
      match Text.dropEnd? ')' rest with
      | some argument => acceptsArgument t name argument
      | none => false
    | none => Text.isListed simpleClasses body || Production.vendorPseudo.accepts t
  | _ => false

def isValidElement (t : Text) : Bool :=
  Text.isListed elements t || Production.vendorPseudo.accepts t

end SelectorSyntax.Pseudo
