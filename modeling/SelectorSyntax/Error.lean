import SelectorSyntax.Category

/-!
# Errors

Why a text cannot be classified, taken apart or cut into tokens, and the message for each cause.
-/

namespace SelectorSyntax

/-- The kind of selector that an accessor takes apart. -/
inductive Wanted
  | attribute
  | pseudo
  | negation
deriving DecidableEq, Repr

def Wanted.describe : Wanted → String
  | .attribute => "attribute"
  | .pseudo => "pseudo-class or pseudo-element"
  | .negation => "negation"

inductive SelectorError
  /-- The text is neither a simple selector nor a combinator. -/
  | noMatch (selector : Text)
  /-- The text is a selector of another kind than the one asked about. -/
  | wrongCategory (wanted : Wanted) (found : Category) (selector : Text)
  /-- A negation holds a selector that may not be negated. -/
  | forbiddenNesting (inner : Text) (category : Category)
  /-- No token begins at this byte offset. -/
  | unexpectedInput (offset : Nat) (remainder : Text)
deriving DecidableEq, Repr

def SelectorError.message : SelectorError → Text
  | noMatch selector => "`".toList ++ selector ++ "` is not a simple selector or combinator".toList
  | wrongCategory wanted found selector =>
    "`".toList ++ selector ++ "` is a ".toList ++ found.name.toList ++ " selector, expected ".toList
      ++ wanted.describe.toList
  | forbiddenNesting inner category =>
    "`:not()` may not contain a ".toList ++ category.name.toList ++ " selector (`".toList ++ inner
      ++ "`)".toList
  | unexpectedInput offset remainder =>
    "unexpected input at byte ".toList ++ Nat.toDigits 10 offset ++ ": `".toList ++ remainder ++ "`".toList

end SelectorSyntax
