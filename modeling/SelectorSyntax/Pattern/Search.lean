import SelectorSyntax.Pattern.Basic
import SelectorSyntax.Pattern.Trie
import SelectorSyntax.Text.Word

/-!
# Searching

The first match, in the order of preference of the pattern, that begins at the beginning of a text.

A thread is a way to match that is still open: the patterns that remain to be matched one after the other, and
the trail of what was read and marked so far.  Threads are kept in order of preference and advance together, one
character at a time.  Two threads with the same remaining patterns have the same future, so the later one is
dropped; this bounds the number of threads by the size of the pattern, and the time is linear in the text.

* `Pattern.outcomes` lists the ways through a pattern at one place of the text: it is passed without reading, or
  the next character is read and some patterns remain.  It is passed at most once.
* `Pattern.lead?` is the first match at the beginning of a text, `Pattern.whole?` the first match of the whole
  text.
-/

namespace SelectorSyntax

/-- What a pattern sees of its place in the text: the characters on both sides. -/
structure Place where
  before : Option Char
  next : Option Char

/-- Whether a place is as required. -/
def Place.satisfies (here : Place) : Condition → Bool
  | .textStart => here.before.isNone
  | .textEnd => here.next.isNone
  | .wordBefore expected => here.before.any Text.isWord == expected
  | .wordAfter expected => here.next.any Text.isWord == expected

/-- One way through a pattern at a place. -/
inductive Outcome
  /-- Nothing is read. -/
  | pass (marks : List Mark)
  /-- The next character is read, and the remaining patterns are still to be matched. -/
  | move (marks : List Mark) (remaining : List Pattern)

/-- What a match did, step by step. -/
inductive Event
  | read (c : Char)
  | note (m : Mark)
deriving DecidableEq, Repr

/-- A match in progress; the latest event comes first in its trail. -/
structure Thread where
  remaining : List Pattern
  trail : List Event

/-- A match at the beginning of a text: what it did, and the text after it. -/
structure Found where
  trail : List Event
  rest : Text
deriving Repr

namespace Outcome

def isPass : Outcome → Bool
  | pass _ => true
  | move .. => false

/-- The same way with marks before it. -/
def after (marks : List Mark) : Outcome → Outcome
  | pass ms => pass (marks ++ ms)
  | move ms ps => move (marks ++ ms) ps

/-- The ways through two patterns in a row; `second` is looked at only if the first one is passed. -/
def andThen (outcomes : List Outcome) (following : List Pattern) (second : Unit → List Outcome) :
    List Outcome :=
  outcomes.flatMap fun
    | pass marks => (second ()).map (after marks)
    | move marks ps => [move marks (ps ++ following)]

/-- The ways through the first of two alternatives, then those through the second, passing at most once. -/
def orElse (first second : List Outcome) : List Outcome :=
  if first.any isPass then first ++ second.filter (!·.isPass) else first ++ second

/-- The ways that read a character. -/
def moves (outcomes : List Outcome) (following : List Pattern) : List Outcome :=
  outcomes.filterMap fun
    | pass _ => none
    | move marks ps => some (move marks (ps ++ following))

end Outcome

namespace Pattern

/-- The ways through a pattern at a place, in order of preference.  A round of a repetition that reads nothing
is not taken; where the body can be passed, the rounds that are still required could be such rounds, so none is. -/
def outcomes (here : Place) : Pattern → List Outcome
  | .empty => [.pass []]
  | .chars set =>
    match here.next with
    | some c => if set.contains c then [.move [] []] else []
    | none => []
  | .seq p q => Outcome.andThen (p.outcomes here) [q] fun _ => q.outcomes here
  | .alt p q => Outcome.orElse (p.outcomes here) (q.outcomes here)
  | .rounds greedy least most p =>
    if most = some 0 then [.pass []]
    else
      let through := p.outcomes here
      let required := if through.any Outcome.isPass then 0 else least
      let more := Outcome.moves through [.rounds greedy (required - 1) (most.map (· - 1)) p]
      if required > 0 then more else if greedy then more ++ [.pass []] else .pass [] :: more
  | .mark m => [.pass [m]]
  | .requires condition => if here.satisfies condition then [.pass []] else []

/-- The ways through patterns in a row. -/
def outcomesOfAll (here : Place) : List Pattern → List Outcome
  | [] => [.pass []]
  | p :: ps => Outcome.andThen (p.outcomes here) ps fun _ => outcomesOfAll here ps

end Pattern

namespace Thread

/-- Appends marks, in their order, to a trail whose latest event comes first. -/
def noteAll (marks : List Mark) (trail : List Event) : List Event :=
  marks.foldl (fun trail m => .note m :: trail) trail

/-- The threads that go on after `c`, up to the first way that ends the match here. -/
def advanceBy (c : Char) (trail : List Event) : List Outcome → List Thread × Option (List Event)
  | [] => ([], none)
  | .pass marks :: _ => ([], some (noteAll marks trail))
  | .move marks ps :: outcomes =>
    let (threads, ended) := advanceBy c trail outcomes
    (⟨ps, .read c :: noteAll marks trail⟩ :: threads, ended)

/-- All threads read `c`.  Those after the first one that ends its match here are dropped: they stand for less
preferred matches. -/
def advance (before : Option Char) (c : Char) : List Thread → List Thread × Option (List Event)
  | [] => ([], none)
  | t :: ts =>
    match advanceBy c t.trail (Pattern.outcomesOfAll ⟨before, some c⟩ t.remaining) with
    | (threads, some trail) => (threads, some trail)
    | (threads, none) =>
      let (later, ended) := advance before c ts
      (threads ++ later, ended)

/-- The trail of the first thread that can end at the end of the text. -/
def finish (before : Option Char) (threads : List Thread) : Option (List Event) :=
  threads.findSome? fun t =>
    (Pattern.outcomesOfAll ⟨before, none⟩ t.remaining).findSome? fun
      | .pass marks => some (noteAll marks t.trail)
      | .move .. => none

/-- Keeps the first of the threads that have the same remaining patterns, if these are not `seen` already. -/
def distinct : (seen : Trie Pattern) → List Thread → List Thread
  | _, [] => []
  | seen, t :: ts =>
    if seen.contains t.remaining then distinct seen ts else t :: distinct (seen.insert t.remaining) ts

/-- Runs the threads through the text that follows `before`.  `best` is the most preferred match that has ended so
far; every thread stands for a more preferred one.  The latest event comes first in the trail of the result. -/
def run (before : Option Char) (best : Option Found) : List Thread → Text → Option Found
  | [], _ => best
  | threads, [] => ((finish before threads).map (⟨·, []⟩)).or best
  | threads, c :: text =>
    let (later, ended) := advance before c threads
    run (some c) ((ended.map (⟨·, c :: text⟩)).or best) (distinct .nothing later) text

end Thread

namespace Pattern

/-- The first match, in order of preference, at the beginning of the text. -/
def lead? (p : Pattern) (text : Text) : Option Found :=
  (Thread.run none none [⟨[p], []⟩] text).map fun found => { found with trail := found.trail.reverse }

/-- The trail of the first match that takes the whole text. -/
def whole? (p : Pattern) (text : Text) : Option (List Event) :=
  (lead? (.seq p .atEnd) text).map (·.trail)

/-- Whether the whole text matches. -/
def accepts (p : Pattern) (text : Text) : Bool :=
  (whole? p text).isSome

end Pattern

namespace Event

/-- The characters that were read. -/
def readText : List Event → Text
  | [] => []
  | .read c :: es => c :: readText es
  | .note _ :: es => readText es

/-- The characters read up to the mark that closes a part. -/
def readUntilClosed (name : String) : List Event → Text
  | [] => []
  | .read c :: es => c :: readUntilClosed name es
  | .note m :: es => if m = .closes name then [] else readUntilClosed name es

/-- The text of a named part, if the match went through it. -/
def part? (name : String) : List Event → Option Text
  | [] => none
  | .read _ :: es => part? name es
  | .note m :: es => if m = .opens name then some (readUntilClosed name es) else part? name es

end Event

namespace Pattern

/-- The number of characters of the first match at the beginning of the text. -/
def leadLength? (p : Pattern) (text : Text) : Option Nat :=
  (p.lead? text).map fun found => (Event.readText found.trail).length

end Pattern

end SelectorSyntax
