import SelectorSyntax.Classification

/-!
# Tokens

A selector is cut into simple selectors and combinators.  At each place the longest match of the token
productions is taken, and of equally long ones that of the earliest production.  The raw texts of the tokens put
together are the text, and each token knows its offset in bytes.

Tokens are gathered into elements: each combinator begins a new element.
-/

namespace SelectorSyntax

structure Token where
  production : Production
  offset : Nat
  raw : Text
deriving DecidableEq, Repr

namespace Token

/-- The productions that tokens are instances of.  Of equally long matches the earliest wins. -/
def productions : List Production :=
  [.typeSelector, .universal, .idSelector, .classSelector, .attrib, .negation, .pseudo, .combinator]

def isCombinator (t : Token) : Bool :=
  t.production == .combinator

/-- The text of a token.  A combinator is written without the blanks around it, and as one blank if there is
nothing else. -/
def text (t : Token) : Text :=
  if t.isCombinator then
    match Text.trim t.raw with
    | [] => [' ']
    | symbol => symbol
  else t.raw

/-- The longer of two matches, and the first one if they are equally long. -/
def longer (best : Option (Production × Nat)) (next : Production × Nat) : Option (Production × Nat) :=
  match best with
  | some (p, n) => if n ≥ next.2 then some (p, n) else some next
  | none => some next

/-- The production of the first token of a text and its length in characters. -/
def first? (t : Text) : Option (Production × Nat) :=
  (productions.filterMap fun p => do
    let n ← p.leadLength? t
    if n > 0 then some (p, n) else none).foldl longer none

/-- Cuts a text into pieces, as long as `first?` finds a piece that is not empty, and gives the text that is
left. -/
def pieces {α : Type} (first? : Text → Option (α × Nat)) (t : Text) : List (α × Text) × Text :=
  match t with
  | [] => ([], [])
  | c :: t =>
    match first? (c :: t) with
    | some (a, n + 1) =>
      let (more, left) := pieces first? (t.drop n)
      ((a, c :: t.take n) :: more, left)
    | _ => ([], c :: t)
termination_by t.length
decreasing_by simp only [List.length_drop, List.length_cons]; omega

/-- The tokens of pieces that begin at the given byte offset. -/
def place (offset : Nat) : List (Production × Text) → List Token
  | [] => []
  | (production, raw) :: more => ⟨production, offset, raw⟩ :: place (offset + Text.byteLength raw) more

/-- The tokens of a selector. -/
def ofText (t : Text) : Except SelectorError (List Token) :=
  match pieces first? t with
  | (all, []) => .ok (place 0 all)
  | (all, left) => .error (.unexpectedInput (Text.byteLength (all.flatMap (·.2))) left)

/-- The tokens of a selector as texts. -/
def texts (t : Text) : Except SelectorError (List Text) :=
  (ofText t).map (·.map text)

/-- Adds a token to the elements so far, the last element first and its last token first. -/
def gather (elements : List (List Token)) (t : Token) : List (List Token) :=
  match elements with
  | [] => [[t]]
  | e :: es => if t.isCombinator then [t] :: e :: es else (t :: e) :: es

/-- Gathers tokens into elements, each led by the combinator that joins it to the one before. -/
def elementsOf (tokens : List Token) : List (List Token) :=
  ((tokens.foldl gather []).map List.reverse).reverse

/-- The elements of a selector, as texts. -/
def elements (t : Text) : Except SelectorError (List (List Text)) :=
  (ofText t).map fun tokens => (elementsOf tokens).map (·.map text)

end Token

end SelectorSyntax
