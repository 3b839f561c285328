/-!
# Text

Texts are lists of characters.  Offsets and lengths that leave the library are counted in UTF-8 bytes
(`byteLength`).

* The blanks of the selectors grammar are exactly space, tab, carriage return, line feed and form feed; `trim`
  removes them at both ends.
* Keywords compare up to ASCII case (`sameIgnoringCase`); no other letter has two cases here.
* `cutAt?`, `dropLead?` and `dropEnd?` take a text apart at a known character or a known beginning or end.
-/

namespace SelectorSyntax

/-- A text, character by character. -/
abbrev Text := List Char

namespace Text

/-- The number of bytes of the UTF-8 encoding. -/
def byteLength (t : Text) : Nat :=
  t.foldr (fun c n => c.utf8Size + n) 0

/-- The blanks of the selectors grammar. -/
def isBlank (c : Char) : Bool :=
  c == ' ' || c == '\t' || c == '\r' || c == '\n' || c == '\x0c'

/-- Drops the blanks at the end. -/
def trimEnd (t : Text) : Text :=
  (t.reverse.dropWhile isBlank).reverse

/-- Drops the blanks at both ends. -/
def trim (t : Text) : Text :=
  trimEnd (t.dropWhile isBlank)

/-- ASCII upper case letters become lower case, and all else stays. -/
def lower (t : Text) : Text :=
  t.map Char.toLower

/-- Equality up to ASCII case. -/
def sameIgnoringCase (s t : Text) : Bool :=
  lower s == lower t

/-- Whether some name of the list is the text, up to ASCII case. -/
def isListed (names : List String) (t : Text) : Bool :=
  names.any fun name => sameIgnoringCase name.toList t

/-- The parts before and after the first occurrence of a character. -/
def cutAt? (c : Char) : Text → Option (Text × Text)
  | [] => none
  | d :: t => if d = c then some ([], t) else (cutAt? c t).map fun (u, v) => (d :: u, v)

/-- What follows a known beginning. -/
def dropLead? : (lead t : Text) → Option Text
  | [], t => some t
  | _ :: _, [] => none
  | c :: lead, d :: t => if c = d then dropLead? lead t else none

/-- What precedes a known last character. -/
def dropEnd? (c : Char) : Text → Option Text
  | [] => none
  | [d] => if d = c then some [] else none
  | d :: t => (dropEnd? c t).map (d :: ·)

/-- Whether a text occurs in another; the empty text occurs everywhere. -/
def occursIn (s : Text) : Text → Bool
  | [] => s.isEmpty
  | c :: t => (dropLead? s (c :: t)).isSome || occursIn s t

/-- Joins texts with a separator between any two neighbours. -/
def join (sep : Text) : List Text → Text
  | [] => []
  | [t] => t
  | t :: ts => t ++ sep ++ join sep ts

end Text

end SelectorSyntax
