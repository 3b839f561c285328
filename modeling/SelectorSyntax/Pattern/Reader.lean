import SelectorSyntax.Pattern.Class
import SelectorSyntax.Pattern.Search
import SelectorSyntax.Text.Alphabetic

/-!
# Patterns in writing

Reads the usual notation for regular expressions: literal characters, `.` for all but a line feed, character
classes, groups with or without a name, groups that ignore case, alternatives, greedy and lazy repetitions, and
the ends of the text and of words.

A written pattern is first cut into symbols; then a pass over the symbols keeps the groups that are still open.
Nothing is read as a group, class or repetition that is not finished, and no name is given to two groups.  A
pattern that nests too deep, or whose states would take too much room, is not read at all.  Of flags only the one for
case is known, at the beginning of a group; classes of characters by a property are not.
-/

namespace SelectorSyntax.Pattern.Reader

/-! ### Symbols -/

/-- How a group begins. -/
structure Opening where
  /-- Whether the text of the group is kept. -/
  captures : Bool
  /-- Whether case matters no more, or again. -/
  ignoreCase : Option Bool
  name : Option Text

/-- The symbols of a written pattern. -/
inductive Symbol
  | literal (c : Char)
  | charClass (c : Class) (depth : Nat)
  | dot
  /-- A pattern that reads nothing. -/
  | condition (p : Pattern)
  | bar
  | rounds (greedy : Bool) (least : Nat) (most : Option Nat)
  | opening (o : Opening)
  | closing

/-- A number of rounds, with white space around it; it has 32 bits. -/
def count? (t : Text) : Option (Nat × Text) :=
  let (digits, rest) := (t.dropWhile Text.isSpace).span Char.isDigit
  if digits.isEmpty then none
  else
    let n := digits.foldl (fun n c => 10 * n + (c.toNat - '0'.toNat)) 0
    if n < 0x100000000 then some (n, rest.dropWhile Text.isSpace) else none

/-- Whether a repetition is greedy: it is unless a question mark follows. -/
def greed : Text → Bool × Text
  | '?' :: t => (false, t)
  | t => (true, t)

/-- A repetition with its bounds; `t` is what follows them. -/
def repetition (least : Nat) (most : Option Nat) (t : Text) : Symbol × Text :=
  let (greedy, rest) := greed t
  (.rounds greedy least most, rest)

/-- The bounds of a counted repetition; `t` is what follows the opening brace. -/
def bounds? (t : Text) : Option (Symbol × Text) := do
  let (least, t) ← count? t
  match t with
  | '\x7d' :: t => some (repetition least (some least) t)
  | ',' :: '\x7d' :: t => some (repetition least none t)
  | ',' :: t =>
    let (most, t) ← count? t
    match t with
    | '\x7d' :: t => if least ≤ most then some (repetition least (some most) t) else none
    | _ => none
  | _ => none

/-- Whether a text can name a group. -/
def isGroupName : Text → Bool
  | [] => false
  | c :: t =>
    (c = '_' || Text.isAlphabetic c) &&
      t.all fun c => c = '_' || c = '.' || c = '[' || c = ']' || Text.isAlphabetic c || Text.isNumeric c

/-- The beginning of a named group; `t` is what follows the opening angle bracket. -/
def namedOpening? (t : Text) : Option (Symbol × Text) := do
  let (name, rest) ← Text.cutAt? '>' t
  if isGroupName name then some (.opening ⟨true, none, some name⟩, rest) else none

/-- The beginning of a group; `t` is what follows the parenthesis. -/
def opening? (t : Text) : Option (Symbol × Text) :=
  match t with
  | '?' :: 'P' :: '<' :: t => namedOpening? t
  | '?' :: '<' :: '=' :: _ | '?' :: '<' :: '!' :: _ => none
  | '?' :: '<' :: t => namedOpening? t
  | '?' :: ':' :: t => some (.opening ⟨false, none, none⟩, t)
  | '?' :: 'i' :: ':' :: t => some (.opening ⟨false, some true, none⟩, t)
  | '?' :: '-' :: 'i' :: ':' :: t => some (.opening ⟨false, some false, none⟩, t)
  | '?' :: _ => none
  | t => some (.opening ⟨true, none, none⟩, t)

/-- The conditions on words that have a name. -/
def namedEdges : List (String × Pattern) :=
  [("start", .wordStart), ("end", .wordEnd), ("start-half", .requires (.wordBefore false)),
    ("end-half", .requires (.wordAfter false))]

/-- The end of a word of some kind; `t` is what follows the escape.  A name in braces tells which; braces without
a name are the bounds of a repetition. -/
def edge? (t : Text) : Option (Symbol × Text) :=
  match t with
  | '\x7b' :: c :: rest =>
    if c.isAlpha || c = '-' then do
      let (name, rest) ← Text.cutAt? '\x7d' (c :: rest)
      return (.condition (← namedEdges.lookup (String.ofList name)), rest)
    else some (.condition .wordEdge, t)
  | _ => some (.condition .wordEdge, t)

/-- What an escape stands for outside of classes; `t` is what follows the backslash. -/
def escapeSymbol? (t : Text) : Option (Symbol × Text) :=
  match t with
  | 'A' :: t => some (.condition .atStart, t)
  | 'z' :: t => some (.condition .atEnd, t)
  | '<' :: t => some (.condition .wordStart, t)
  | '>' :: t => some (.condition .wordEnd, t)
  | 'b' :: t => edge? t
  | 'B' :: t => some (.condition .noWordEdge, t)
  | t =>
    match t.head?.bind escapedSet? with
    | some s => some (.charClass (.set s) 0, t.tail)
    | none => (escape? t).map fun (c, t) => (.literal c, t)

/-- The first symbol of a written pattern. -/
def symbol? : Text → Option (Symbol × Text)
  | [] => none
  | '\\' :: t => escapeSymbol? t
  | '.' :: t => some (.dot, t)
  | '^' :: t => some (.condition .atStart, t)
  | '$' :: t => some (.condition .atEnd, t)
  | '|' :: t => some (.bar, t)
  | '(' :: t => opening? t
  | ')' :: t => some (.closing, t)
  | '[' :: t => (class? t).map fun (c, depth, t) => (.charClass c depth, t)
  | '*' :: t => some (repetition 0 none t)
  | '+' :: t => some (repetition 1 none t)
  | '?' :: t => some (repetition 0 (some 1) t)
  | '\x7b' :: t => bounds? t
  | c :: t => some (.literal c, t)

/-- All symbols of a written pattern. -/
def symbols? : (fuel : Nat) → Text → Option (List Symbol)
  | _, [] => some []
  | 0, _ :: _ => none
  | fuel + 1, t => do
    let (s, rest) ← symbol? t
    return s :: (← symbols? fuel rest)

/-! ### Measured patterns -/

/-- A pattern with its measures. -/
structure Measured where
  pattern : Pattern
  /-- How deep it nests. -/
  depth : Nat
  /-- The bytes that the states of its machine take, where repetitions are written out. -/
  room : Nat
  /-- Whether it matches nothing but the empty text. -/
  blank : Bool

namespace Measured

/-- The bytes of a state. -/
def state : Nat :=
  32

/-- The bytes of a state that branches in two. -/
def branch : Nat :=
  state + 8

def empty : Measured :=
  ⟨.empty, 0, state, true⟩

/-- A condition on the place in the text. -/
def condition (p : Pattern) : Measured :=
  ⟨p, 0, state, true⟩

/-- The number of ranges of a set of ASCII characters. -/
def asciiRanges? : CharSet → Option Nat
  | .ranges rs => if rs.all (·.last < 128) then some rs.length else none
  | .union s t => do return (← asciiRanges? s) + (← asciiRanges? t)
  | _ => none

/-- The number of states for the bytes of the characters of a set. -/
def byteStates : CharSet → Nat
  | .ranges rs => max 13 rs.length
  | .complement s => byteStates s
  | .union s t | .inter s t => max (byteStates s) (byteStates t)

/-- The bytes for the states of a character set.  ASCII ranges share a state. -/
def setRoom (s : CharSet) : Nat :=
  match asciiRanges? s with
  | some n => 2 * state + 8 * n
  | none => byteStates s * state

def set (s : CharSet) (depth : Nat) : Measured :=
  ⟨.chars s, depth, setRoom s, false⟩

/-- A character as it is. -/
def literal (c : Char) : Measured :=
  ⟨.char c, 0, c.utf8Size * state, false⟩

def deepest (ms : List Measured) : Nat :=
  ms.foldr (fun m depth => max m.depth depth) 0

def totalRoom (ms : List Measured) : Nat :=
  ms.foldr (fun m room => m.room + room) 0

/-- Measured patterns one after the other. -/
def concat : List Measured → Measured
  | [] => empty
  | [m] => m
  | ms =>
    ⟨Pattern.concat (ms.map (·.pattern)), deepest ms + 1, totalRoom ms, ms.all (·.blank)⟩

/-- Measured patterns to choose from. -/
def choice : List Measured → Measured
  | [] => empty
  | [m] => m
  | ms =>
    ⟨Pattern.choice (ms.map (·.pattern)), deepest ms + 1, totalRoom ms + 4 * ms.length + 2 * state,
      ms.all (·.blank)⟩

/-- The bytes for the states of a repetition whose body takes `room`. -/
def roundsRoom (room least : Nat) : (most : Option Nat) → Nat
  | none => max least 1 * room + branch
  | some most =>
    if most = 0 then state
    else if least = most then least * room
    else state + least * room + (most - least) * (room + branch)

/-- A repetition.  Of a blank pattern one round is as good as many. -/
def rounds (greedy : Bool) (least : Nat) (most : Option Nat) (m : Measured) : Measured :=
  let (least', most') := if m.blank then (min least 1, some (min (most.getD 1) 1)) else (least, most)
  ⟨.rounds greedy least most m.pattern, m.depth + 1, roundsRoom m.room least' most', m.blank || most = some 0⟩

/-- A group, with the states that keep its text. -/
def group (captures : Bool) (m : Measured) : Measured :=
  { m with depth := m.depth + 1, room := if captures then m.room + 2 * state else m.room }

/-- Patterns may nest 250 levels deep, and their states may take 256 MiB. -/
def isAdmissible (m : Measured) : Bool :=
  m.depth ≤ 250 && m.room ≤ 0x10000000

end Measured

/-! ### Groups -/

/-- A group that is still open: its finished alternatives and the parts of the current one, the latest first. -/
structure OpenGroup where
  captures : Bool
  ignoreCase : Bool
  alternatives : List Measured
  parts : List Measured

namespace OpenGroup

def blank (captures ignoreCase : Bool) : OpenGroup :=
  ⟨captures, ignoreCase, [], []⟩

def add (o : OpenGroup) (m : Measured) : OpenGroup :=
  { o with parts := m :: o.parts }

/-- Ends the current alternative. -/
def endAlternative (o : OpenGroup) : OpenGroup :=
  { o with alternatives := Measured.concat o.parts.reverse :: o.alternatives, parts := [] }

/-- What is in the group. -/
def body (o : OpenGroup) : Measured :=
  Measured.choice o.endAlternative.alternatives.reverse

/-- A literal character, in all its cases if case does not matter. -/
def literal (o : OpenGroup) (c : Char) : Measured :=
  if o.ignoreCase then
    let s := CaseFolding.closure (.ofText [c])
    if CaseFolding.variants (.ofText [c]) = [] then .literal c else .set s 0
  else .literal c

end OpenGroup

/-- What has been read so far: the groups that are open, the innermost first, and the names given. -/
structure Progress where
  current : OpenGroup
  outer : List OpenGroup
  names : List Text

namespace Progress

def start : Progress :=
  ⟨.blank false false, [], []⟩

def add (p : Progress) (m : Measured) : Progress :=
  { p with current := p.current.add m }

/-- Begins a group inside the current one, unless its name is taken. -/
def enter (p : Progress) (o : Opening) : Option Progress :=
  let inner := OpenGroup.blank o.captures (o.ignoreCase.getD p.current.ignoreCase)
  match o.name with
  | none => some ⟨inner, p.current :: p.outer, p.names⟩
  | some name =>
    if p.names.contains name then none else some ⟨inner, p.current :: p.outer, name :: p.names⟩

/-- Ends the current group, unless none is open. -/
def leave (p : Progress) : Option Progress :=
  match p.outer with
  | [] => none
  | enclosing :: outer =>
    some { p with current := enclosing.add (p.current.body.group p.current.captures), outer }

/-- Repeats the latest part of the current group, if there is one. -/
def repeatLast (p : Progress) (greedy : Bool) (least : Nat) (most : Option Nat) : Option Progress :=
  match p.current.parts with
  | [] => none
  | last :: parts => some { p with current := { p.current with parts := last.rounds greedy least most :: parts } }

/-- Takes one more symbol. -/
def take (p : Progress) : Symbol → Option Progress
  | .literal c => some (p.add (p.current.literal c))
  | .charClass c depth => some (p.add (.set (c.chars p.current.ignoreCase) depth))
  | .dot => some (p.add (.set (.outside [.one '\n']) 0))
  | .condition c => some (p.add (.condition c))
  | .bar => some { p with current := p.current.endAlternative }
  | .rounds greedy least most => p.repeatLast greedy least most
  | .opening o => p.enter o
  | .closing => p.leave

end Progress

/-- The pattern of a list of symbols, if every group is closed. -/
def ofSymbols? (symbols : List Symbol) : Option Measured := do
  let p ← symbols.foldlM Progress.take .start
  if p.outer.isEmpty then some p.current.body else none

end SelectorSyntax.Pattern.Reader

namespace SelectorSyntax.Pattern

/-- The pattern that a text writes, if it writes an admissible one. -/
def read? (t : Text) : Option Pattern := do
  let m ← (Reader.symbols? t.length t).bind Reader.ofSymbols?
  if m.isAdmissible then some m.pattern else none

/-- Whether some part of the text matches. -/
def occursIn (p : Pattern) (text : Text) : Bool :=
  (lead? (.seq (.rounds false 0 none (outside [])) p) text).isSome

end SelectorSyntax.Pattern
