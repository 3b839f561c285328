import SelectorSyntax.Group
import SelectorSyntax.Terminal
import SelectorSyntax.Warning

/-!
# The command line

`validate [--strict] SELECTORS...` checks groups of selectors, one line for each; `inspect [--json] [--strict]
SEQUENCE` reports on a single selector.  Running a command is a function from its arguments to what it prints
and its exit status.
-/

namespace SelectorSyntax

inductive Command
  | validate (strict : Bool) (groups : List Text)
  | inspect (json strict : Bool) (sequence : Text)
  | version
deriving DecidableEq, Repr

/-- What a run leaves behind. -/
structure RunResult where
  exit : Nat
  stdout : Text
  stderr : Text
deriving DecidableEq, Repr

/-! ### Arguments -/

/-- The arguments of a command: the flags that were given, and the others in order. -/
structure Arguments where
  flags : List Text
  positional : List Text
deriving DecidableEq, Repr

namespace Arguments

/-- Whether an argument is a flag: it begins with a hyphen and is more than that. -/
def isFlag : Text → Bool
  | '-' :: _ :: _ => true
  | _ => false

/-- Sorts arguments into flags and others.  A flag that is not known or given twice is refused; after `--` there
are no flags. -/
def sort? (known : List String) : List Text → Option Arguments
  | [] => some ⟨[], []⟩
  | a :: rest =>
    if a = "--".toList then some ⟨[], rest⟩
    else do
      let sorted ← sort? known rest
      if isFlag a then
        if known.any (·.toList == a) && !sorted.flags.contains a then
          some { sorted with flags := a :: sorted.flags }
        else none
      else some { sorted with positional := a :: sorted.positional }

def has (a : Arguments) (flag : String) : Bool :=
  a.flags.contains flag.toList

end Arguments

namespace Command

def validate? (arguments : List Text) : Option Command := do
  let a ← Arguments.sort? ["--strict"] arguments
  match a.positional with
  | [] => none
  | groups => some (.validate (a.has "--strict") groups)

def inspect? (arguments : List Text) : Option Command := do
  let a ← Arguments.sort? ["--json", "--strict"] arguments
  match a.positional with
  | [sequence] => some (.inspect (a.has "--json") (a.has "--strict") sequence)
  | _ => none

/-- The command that the arguments after the program's name ask for, if they are well formed. -/
def ofArguments? : List Text → Option Command
  | [] => none
  | name :: arguments =>
    if name = "validate".toList then validate? arguments
    else if name = "inspect".toList then inspect? arguments
    else if name = "--version".toList || (Text.dropLead? "-V".toList name).isSome then some .version
    else none

/-! ### Validating -/

/-- Warns about a pseudo-element with a single colon and about a vendor's mark. -/
def lint (log : WarningLog) (token : Text) : WarningLog :=
  match Classification.ofText token, Pseudo.ofText token with
  | .ok c, .ok (some p) =>
    let log := if c.category = .pseudoElement && p.colons = some .one then
        log.warn "Selectors".toList
          ("`".toList ++ token ++ "` uses the legacy single-colon pseudo-element syntax".toList)
      else log
    match p.vendor with
    | some vendor =>
      log.warn "Selectors".toList
        ("`".toList ++ token ++ "` is specific to the `".toList ++ vendor ++ "` vendor".toList)
    | none => log
  | _, _ => log

/-- The tokens of a selector that are not valid; a selector that cannot be cut into tokens is one. -/
def rejectedIn (strict : Bool) (sequence : Text) : List Text :=
  match Token.texts sequence with
  | .ok tokens => tokens.filter (!isValidSelector strict ·)
  | .error _ => [sequence]

/-- The tokens that are looked at for warnings. -/
def lintedIn (sequence : Text) : List Text :=
  match Token.texts sequence with
  | .ok tokens => tokens
  | .error _ => []

/-- Checks a group: whether it is valid, the line to print, and the warnings so far. -/
def validateGroup (strict : Bool) (log : WarningLog) (group : Text) : Bool × Text × WarningLog :=
  if isValidGroup group then
    let sequences := Group.sequences group
    let log := (sequences.flatMap lintedIn).foldl lint log
    let rejected := sequences.flatMap (rejectedIn strict)
    if rejected.isEmpty then (true, Terminal.tick ++ [' '] ++ group ++ ['\n'], log)
    else
      (false,
        Terminal.cross ++ [' '] ++ group ++ ": unknown ".toList ++ Text.join ", ".toList rejected ++ ['\n'], log)
  else (false, Terminal.cross ++ [' '] ++ group ++ ": not a valid selectors group\n".toList, log)

/-- Checks groups one after the other; warnings are not repeated among them. -/
def validateAll (strict : Bool) (log : WarningLog) : List Text → Bool × Text × WarningLog
  | [] => (true, [], log)
  | group :: groups =>
    let (valid, line, log) := validateGroup strict log group
    let (allValid, lines, log) := validateAll strict log groups
    (valid && allValid, line ++ lines, log)

/-! ### Inspecting -/

/-- Every line after the first is indented by four blanks. -/
def indentLines (t : Text) : Text :=
  t.flatMap fun c => if c = '\n' then "\n    ".toList else [c]

def inspectFailure (sequence : Text) (e : SelectorError) : Text :=
  "Error: cannot inspect `".toList ++ sequence ++ "`\n\nCaused by:\n    ".toList ++ indentLines e.message ++ ['\n']

/-- The exit status of a run that found everything valid or not. -/
def exitStatus (valid : Bool) : Nat :=
  if valid then 0 else 1

def run : Command → RunResult
  | .version => ⟨0, "selectors 0.1.0\n".toList, []⟩
  | .validate strict groups =>
    let (valid, lines, log) := validateAll strict .empty groups
    ⟨exitStatus valid, lines, log.output⟩
  | .inspect json strict sequence =>
    match Report.ofText strict sequence with
    | .error e => ⟨1, [], inspectFailure sequence e⟩
    | .ok report =>
      ⟨exitStatus report.isValid,
        if json then report.toJson.pretty ++ ['\n'] else Terminal.ofReport report, []⟩

/-- The exit status for arguments that are not well formed. -/
def usageStatus : Nat :=
  2

/-- How the command line is to be used. -/
def usage : Text :=
  "Usage: selectors validate [--strict] <SELECTORS>...\n".toList ++
    "       selectors inspect [--json] [--strict] <SEQUENCE>\n".toList

end Command

end SelectorSyntax
