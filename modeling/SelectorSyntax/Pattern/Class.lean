import SelectorSyntax.CaseFolding
import SelectorSyntax.Text.Alphabetic
import SelectorSyntax.Text.Word

/-!
# Character classes in writing

Reads what stands between square brackets in a written pattern: characters, ranges and escapes, classes inside
the class, escaped and named classes, and the operators `&&`, `--` and `~~` for intersection, difference and
symmetric difference.  Operators bind weaker than standing side by side, and to the left.

A class is read into a tree, because what it contains depends on whether case matters where it stands;
`Class.chars` gives its characters.  Reading also counts how deep the tree nests.
-/

namespace SelectorSyntax

namespace Pattern

/-- The ways to combine two classes. -/
inductive ClassOperator
  | inter
  | difference
  | symmetric

inductive Class
  | set (s : CharSet)
  | union (a b : Class)
  | combine (o : ClassOperator) (a b : Class)
  /-- Brackets, around the characters inside or around all others. -/
  | bracket (negated : Bool) (body : Class)

namespace Class

def none : Class :=
  .set (.ranges [])

/-- The characters of a class.  Where case does not matter, each pair of brackets and each side of an operator
stands for all cases of its characters. -/
def chars (ignoreCase : Bool) : Class → CharSet
  | .set s => s
  | .union a b => .union (a.chars ignoreCase) (b.chars ignoreCase)
  | .bracket negated body =>
    let s := fold (body.chars ignoreCase)
    if negated then .complement s else s
  | .combine o a b =>
    let s := fold (a.chars ignoreCase)
    let t := fold (b.chars ignoreCase)
    match o with
    | .inter => .inter s t
    | .difference => .inter s (.complement t)
    | .symmetric => .union (.inter s (.complement t)) (.inter t (.complement s))
where
  fold (s : CharSet) : CharSet :=
    if ignoreCase then CaseFolding.closure s else s

end Class

end Pattern

namespace Pattern.Reader

/-! ### Escapes -/

/-- The value of a hexadecimal digit. -/
def hexValue? (c : Char) : Option Nat :=
  if c.isDigit then some (c.toNat - '0'.toNat)
  else if 'a' ≤ c && c ≤ 'f' then some (c.toNat - 'a'.toNat + 10)
  else if 'A' ≤ c && c ≤ 'F' then some (c.toNat - 'A'.toNat + 10)
  else none

/-- The character of a code point written in hexadecimal digits. -/
def hexChar? (digits : Text) : Option Char := do
  if digits.isEmpty then none
  else
    let n ← digits.foldlM (fun n c => (hexValue? c).map (16 * n + ·)) 0
    if n.isValidChar then some (Char.ofNat n) else none

/-- A code point after `\x`, `\u` or `\U`: in braces, or with that many digits. -/
def hexEscape? (digits : Nat) : Text → Option (Char × Text)
  | '\x7b' :: t => do
    let (body, rest) ← Text.cutAt? '\x7d' t
    return (← hexChar? body, rest)
  | t => if t.length < digits then none else do return (← hexChar? (t.take digits), t.drop digits)

/-- The character that an escape stands for; `t` is what follows the backslash.  Letters and digits stand for no
character unless listed, and neither do angle brackets. -/
def escape? (t : Text) : Option (Char × Text) :=
  match t with
  | [] => none
  | 'x' :: t => hexEscape? 2 t
  | 'u' :: t => hexEscape? 4 t
  | 'U' :: t => hexEscape? 8 t
  | 'a' :: t => some ('\x07', t)
  | 'f' :: t => some ('\x0c', t)
  | 'n' :: t => some ('\n', t)
  | 'r' :: t => some ('\r', t)
  | 't' :: t => some ('\t', t)
  | 'v' :: t => some ('\x0b', t)
  | c :: t => if c.toNat < 128 && !c.isAlphanum && c != '<' && c != '>' then some (c, t) else none

/-- The set of characters that a letter stands for after a backslash: digits, white space and the characters of
words, and in upper case all others. -/
def escapedSet? : Char → Option CharSet
  | 'd' => some (.ranges Text.digitRanges)
  | 'D' => some (.outside Text.digitRanges)
  | 's' => some (.ranges Text.spaceRanges)
  | 'S' => some (.outside Text.spaceRanges)
  | 'w' => some (.ranges Text.wordRanges)
  | 'W' => some (.outside Text.wordRanges)
  | _ => none

/-! ### Classes -/

/-- The ASCII classes that have a name. -/
def namedClasses : List (String × List CharRange) :=
  [("alnum", [.between '0' '9', .between 'A' 'Z', .between 'a' 'z']),
    ("alpha", [.between 'A' 'Z', .between 'a' 'z']), ("ascii", [⟨0, 0x7F⟩]), ("blank", [.one '\t', .one ' ']),
    ("cntrl", [⟨0, 0x1F⟩, ⟨0x7F, 0x7F⟩]), ("digit", [.between '0' '9']), ("graph", [.between '!' '~']),
    ("lower", [.between 'a' 'z']), ("print", [.between ' ' '~']),
    ("punct", [.between '!' '/', .between ':' '@', .between '[' '\x60', .between '\x7b' '~']),
    ("space", [.between '\t' '\r', .one ' ']), ("upper", [.between 'A' 'Z']),
    ("word", [.between '0' '9', .between 'A' 'Z', .one '_', .between 'a' 'z']),
    ("xdigit", [.between '0' '9', .between 'A' 'F', .between 'a' 'f'])]

/-- A named ASCII class in its own brackets; `t` is what follows the opening bracket. -/
def namedClass? : Text → Option (Class × Text)
  | ':' :: t => do
    let (negated, t) := match t with
      | '^' :: t => (true, t)
      | t => (false, t)
    let (name, rest) ← Text.cutAt? ':' t
    let ranges ← namedClasses.lookup (String.ofList name)
    match rest with
    | ']' :: rest => some (.set (if negated then .outside ranges else .ranges ranges), rest)
    | _ => none
  | _ => none

/-- Classes side by side: their union, how many there are, and the deepest nesting among them. -/
structure Items where
  union : Class
  count : Nat
  depth : Nat

namespace Items

def empty : Items :=
  ⟨.none, 0, 0⟩

def add (i : Items) (c : Class) (depth : Nat) : Items :=
  ⟨if i.count = 0 then c else .union i.union c, i.count + 1, max i.depth depth⟩

/-- The union with its depth.  Several items nest one level deeper than a single one. -/
def close (i : Items) : Class × Nat :=
  (i.union, if i.count ≥ 2 then i.depth + 1 else i.depth)

end Items

/-- A pair of brackets that is still open: the left side of an operator, if there is one, and the items after
it. -/
structure OpenClass where
  negated : Bool
  left : Option (ClassOperator × Class × Nat)
  items : Items

namespace OpenClass

/-- What has been read between the brackets, with its depth. -/
def body (o : OpenClass) : Class × Nat :=
  let (right, depth) := o.items.close
  match o.left with
  | none => (right, depth)
  | some (operator, left, leftDepth) => (.combine operator left right, max leftDepth depth + 1)

def add (o : OpenClass) (c : Class) (depth : Nat) : OpenClass :=
  { o with items := o.items.add c depth }

/-- An operator, with everything before it on its left. -/
def operator (o : OpenClass) (operator : ClassOperator) : OpenClass :=
  let (left, depth) := o.body
  { o with left := some (operator, left, depth), items := .empty }

/-- The class in its brackets. -/
def close (o : OpenClass) : Class × Nat :=
  let (c, depth) := o.body
  (.bracket o.negated c, depth + 1)

end OpenClass

/-- The beginning of a class; `t` is what follows its opening bracket.  Hyphens that come first are members, and
so is a closing bracket that comes first. -/
def openClass (t : Text) : OpenClass × Text :=
  let (negated, t) := match t with
    | '^' :: t => (true, t)
    | t => (false, t)
  let member (items : Items) (c : Char) := items.add (.set (.ofText [c])) 0
  match t.span (· = '-') with
  | ([], ']' :: rest) => (⟨negated, none, member .empty ']'⟩, rest)
  | (hyphens, rest) => (⟨negated, none, hyphens.foldl member .empty⟩, rest)

/-- One character of a class, written as it is or escaped. -/
def classChar? : Text → Option (Char × Text)
  | [] => none
  | '\\' :: t => escape? t
  | c :: t => some (c, t)

/-- A character or a range of a class.  A hyphen before a bracket or another hyphen makes no range. -/
def classRange? (t : Text) : Option (CharRange × Text) := do
  let (first, t) ← classChar? t
  match t with
  | '-' :: ']' :: _ | '-' :: '-' :: _ => some (.one first, t)
  | '-' :: t =>
    let (last, t) ← classChar? t
    if first ≤ last then some (.between first last, t) else none
  | _ => some (.one first, t)

/-- An escaped set or a range of a class.  A set is no end of a range. -/
def classItem? (t : Text) : Option (CharSet × Text) :=
  let range := (classRange? t).map fun (r, rest) => (.ranges [r], rest)
  match t with
  | '\\' :: c :: rest =>
    match escapedSet? c, rest with
    | none, _ => range
    | some s, '-' :: ']' :: _ | some s, '-' :: '-' :: _ => some (s, rest)
    | some _, '-' :: _ => none
    | some s, _ => some (s, rest)
  | _ => range

/-- A class up to its closing bracket, with its depth.  `outer` are the classes around it, the innermost first. -/
def classFrom? : (fuel : Nat) → OpenClass → (outer : List OpenClass) → Text → Option (Class × Nat × Text)
  | 0, _, _, _ => none
  | fuel + 1, current, outer, t =>
    match t with
    | [] => none
    | '[' :: t =>
      match namedClass? t with
      | some (c, rest) => classFrom? fuel (current.add c 0) outer rest
      | none =>
        let (inner, rest) := openClass t
        classFrom? fuel inner (current :: outer) rest
    | ']' :: rest =>
      let (c, depth) := current.close
      match outer with
      | [] => some (c, depth, rest)
      | enclosing :: outer => classFrom? fuel (enclosing.add c depth) outer rest
    | '&' :: '&' :: rest => classFrom? fuel (current.operator .inter) outer rest
    | '-' :: '-' :: rest => classFrom? fuel (current.operator .difference) outer rest
    | '~' :: '~' :: rest => classFrom? fuel (current.operator .symmetric) outer rest
    | t =>
      match classItem? t with
      | some (s, rest) => classFrom? fuel (current.add (.set s) 0) outer rest
      | none => none

/-- A class with its depth; `t` is what follows its opening bracket. -/
def class? (t : Text) : Option (Class × Nat × Text) :=
  let (current, rest) := openClass t
  classFrom? (t.length + 1) current [] rest

end Pattern.Reader

end SelectorSyntax
