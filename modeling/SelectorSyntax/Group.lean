import SelectorSyntax.Text

/-!
# Groups of selectors

A group is cut at its commas, except at those inside quotes or brackets and those after a backslash.  The
scanner needs no grammar and takes any text: brackets are counted without regard to their kind, and a closing
one too many is ignored.
-/

namespace SelectorSyntax.Group

/-- Where the scanner stands: after a backslash or not, in an open quote or none, and in how many brackets. -/
structure Scan where
  escaped : Bool
  quote : Option Char
  depth : Nat
deriving DecidableEq, Repr

namespace Scan

def start : Scan :=
  ⟨false, none, 0⟩

/-- Whether a comma would separate two selectors here. -/
def atTop (s : Scan) : Bool :=
  !s.escaped && s.quote.isNone && s.depth == 0

/-- The scanner after one more character. -/
def next (s : Scan) (c : Char) : Scan :=
  if s.escaped then { s with escaped := false }
  else if c = '\\' then { s with escaped := true }
  else
    match s.quote with
    | some quote => if c = quote then { s with quote := none } else s
    | none =>
      if c = '"' || c = '\'' then { s with quote := some c }
      else if c = '(' || c = '[' then { s with depth := s.depth + 1 }
      else if c = ')' || c = ']' then { s with depth := s.depth - 1 }
      else s

end Scan

/-- The pieces between separating commas, as they are written. -/
def pieces (s : Scan) : Text → List Text
  | [] => [[]]
  | c :: t =>
    if c = ',' && s.atTop then [] :: pieces s t
    else
      match pieces (s.next c) t with
      | piece :: more => (c :: piece) :: more
      | [] => [[c]]

/-- The selectors of a group, without the blanks around them.  The empty text has none. -/
def sequences (t : Text) : List Text :=
  if t.isEmpty then [] else (pieces .start t).map Text.trim

end SelectorSyntax.Group
