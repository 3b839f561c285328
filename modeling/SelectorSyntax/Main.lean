import SelectorSyntax.CommandLine

/-!
# The program

Reads the arguments, prints what the command leaves behind, and exits with its status.
-/

open SelectorSyntax in
def main (arguments : List String) : IO UInt32 := do
  let result := match Command.ofArguments? (arguments.map String.toList) with
    | some command => command.run
    | none => ⟨Command.usageStatus, [], Command.usage⟩
  IO.print (String.ofList result.stdout)
  IO.eprint (String.ofList result.stderr)
  return result.exit.toUInt32
