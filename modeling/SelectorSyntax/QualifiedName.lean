import SelectorSyntax.Text

/-!
# Qualified names

A name with an optional namespace before it, separated by the first bar that no backslash escapes.
-/

namespace SelectorSyntax

structure QualifiedName where
  qualifier : Option Text
  name : Text
deriving DecidableEq, Repr

namespace QualifiedName

/-- The parts before and after the first bar.  A backslash takes the character after it along. -/
def cut? : Text → Option (Text × Text)
  | [] => none
  | ['\\'] => none
  | '\\' :: c :: t => (cut? t).map fun (before, after) => ('\\' :: c :: before, after)
  | '|' :: t => some ([], t)
  | c :: t => (cut? t).map fun (before, after) => (c :: before, after)

def ofText (t : Text) : QualifiedName :=
  match cut? t with
  | some (before, after) => ⟨some before, after⟩
  | none => ⟨none, t⟩

end QualifiedName

end SelectorSyntax
