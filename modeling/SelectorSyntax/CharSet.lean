import SelectorSyntax.Text

/-!
# Character sets

Sets of characters built from ranges of code points by complement, union and intersection.  A set is plain data,
so that equality of patterns is decidable; `contains` says what is in it.
-/

namespace SelectorSyntax

/-- A closed range of code points. -/
structure CharRange where
  first : Nat
  last : Nat
deriving DecidableEq, Repr

namespace CharRange

def contains (r : CharRange) (n : Nat) : Bool :=
  r.first ≤ n && n ≤ r.last

/-- The range of a single character. -/
def one (c : Char) : CharRange :=
  ⟨c.toNat, c.toNat⟩

/-- The range between two characters, both included. -/
def between (c d : Char) : CharRange :=
  ⟨c.toNat, d.toNat⟩

end CharRange

inductive CharSet
  | ranges (rs : List CharRange)
  | complement (s : CharSet)
  | union (s t : CharSet)
  | inter (s t : CharSet)
deriving DecidableEq, Repr

namespace CharSet

def contains (s : CharSet) (c : Char) : Bool :=
  match s with
  | ranges rs => rs.any (·.contains c.toNat)
  | complement s => !s.contains c
  | union s t => s.contains c || t.contains c
  | inter s t => s.contains c && t.contains c

/-- The characters of a text. -/
def ofText (t : Text) : CharSet :=
  ranges (t.map .one)

/-- All characters but those of the ranges. -/
def outside (rs : List CharRange) : CharSet :=
  complement (ranges rs)

end CharSet

end SelectorSyntax
