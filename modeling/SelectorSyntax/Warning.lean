import SelectorSyntax.Text

/-!
# Warnings

A log that prints each warning once.  Warnings are told apart by the text `[component] message`.
-/

namespace SelectorSyntax

/-- The keys of the warnings given since the log was last cleared, and everything printed so far. -/
structure WarningLog where
  seen : List Text
  printed : List Text
deriving DecidableEq, Repr

namespace WarningLog

def empty : WarningLog :=
  ⟨[], []⟩

/-- What a warning is recognized by. -/
def key (component message : Text) : Text :=
  "[".toList ++ component ++ "] ".toList ++ message

/-- A warning as printed: a line in yellow. -/
def line (component message : Text) : Text :=
  "\x1b[33m[".toList ++ component ++ "] ⚠ ".toList ++ message ++ "\x1b[39m\n".toList

def hasWarned (log : WarningLog) (component message : Text) : Bool :=
  log.seen.contains (key component message)

/-- Prints the warning unless it was given before. -/
def warn (log : WarningLog) (component message : Text) : WarningLog :=
  if log.hasWarned component message then log
  else ⟨key component message :: log.seen, log.printed ++ [line component message]⟩

/-- Forgets which warnings were given. -/
def clear (log : WarningLog) : WarningLog :=
  { log with seen := [] }

/-- All that was printed. -/
def output (log : WarningLog) : Text :=
  log.printed.flatten

end WarningLog

end SelectorSyntax
