import SelectorSyntax.Pattern.Reader
import SelectorSyntax.Vocabulary
import SelectorSyntax.Warning

/-!
# Matching written patterns

Written patterns are compiled once and kept.  A pattern that cannot be compiled matches nothing, is not kept, and is
warned about once, with a description of what is wrong with it.

What compiles patterns and matches with them is a parameter (`Pattern.Engine`).  The reader of written patterns is one
such engine (`Pattern.Engine.ofReader`).
-/

namespace SelectorSyntax

/-- What compiles written patterns and matches with them. -/
structure Pattern.Engine where
  Compiled : Type
  /-- The compiled pattern, or what is wrong with the written one. -/
  compile : Text → Except Text Compiled
  /-- Whether some part of the text matches. -/
  isMatch : Compiled → Text → Bool

namespace Pattern.Engine

/-- Compiles a pattern, put between the two ends of the text.  The ends are written around it, so that a parenthesis
in the pattern may close the group that they are joined by. -/
def compileWhole (engine : Engine) (written : Text) : Except Text engine.Compiled :=
  engine.compile ("^(?:".toList ++ written ++ ")$".toList)

/-- The reader of written patterns, with a description of the texts that write no pattern. -/
def ofReader (describe : Text → Text) : Engine where
  Compiled := Pattern
  compile t :=
    match read? t with
    | some p => .ok p
    | none => .error (describe t)
  isMatch := occursIn

/-- A text that writes no pattern is described by itself. -/
def reader : Engine :=
  ofReader id

end Pattern.Engine

/-- The patterns compiled so far, by their texts, and the warnings given. -/
structure PatternCache (engine : Pattern.Engine := .reader) where
  entries : List (Text × engine.Compiled)
  warnings : WarningLog

namespace PatternCache

variable {engine : Pattern.Engine}

def empty : PatternCache engine :=
  ⟨[], .empty⟩

/-- The warning about a pattern that cannot be compiled. -/
def complaint (fault : Text) : Text :=
  "unusable grammar pattern: ".toList ++ fault

/-- The number of patterns kept. -/
def size (cache : PatternCache engine) : Nat :=
  cache.entries.length

/-- The pattern that a text writes between the ends of a candidate, kept from now on. -/
def find (cache : PatternCache engine) (written : Text) : Option engine.Compiled × PatternCache engine :=
  match cache.entries.lookup written with
  | some p => (some p, cache)
  | none =>
    match engine.compileWhole written with
    | .ok p => (some p, { cache with entries := (written, p) :: cache.entries })
    | .error fault =>
      (none, { cache with warnings := cache.warnings.warn "Selectors".toList (complaint fault) })

/-- Whether the candidate as a whole matches the written pattern. -/
def matchesWhole (cache : PatternCache engine) (written candidate : Text) : Bool × PatternCache engine :=
  match cache.find written with
  | (some p, cache) => (engine.isMatch p candidate, cache)
  | (none, cache) => (false, cache)

/-- The names of custom elements as a written pattern. -/
def customElementName : Text :=
  "(?:[a-z]+-)+[a-z]+".toList

/-- The vocabulary of an element, where the pattern for custom elements is looked up if no list has the name. -/
def elementVocabulary? (cache : PatternCache engine) (name : Text) : Option Vocabulary × PatternCache engine :=
  match Vocabulary.listedElement? name with
  | some v => (some v, cache)
  | none =>
    match cache.matchesWhole customElementName name with
    | (true, cache) => (some .customElement, cache)
    | (false, cache) => (none, cache)

/-- Forgets which warnings were given, and keeps the patterns. -/
def clearWarnings (cache : PatternCache engine) : PatternCache engine :=
  { cache with warnings := cache.warnings.clear }

end PatternCache

end SelectorSyntax
