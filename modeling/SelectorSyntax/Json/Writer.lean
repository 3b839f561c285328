import SelectorSyntax.Json.Basic

/-!
# Writing JSON

`Json.compact` writes a value without blanks, `Json.pretty` over several lines with two blanks for each level.
-/

namespace SelectorSyntax.Json

/-- A string with its quotes. -/
def quote (written : Text) : Text :=
  '"' :: written ++ ['"']

mutual

/-- A value without blanks. -/
def compact : Json → Text
  | .null => "null".toList
  | .bool true => "true".toList
  | .bool false => "false".toList
  | .number written => written
  | .string written => quote written
  | .array items => '[' :: compactItems items ++ [']']
  | .object members => '\x7b' :: compactMembers members ++ ['\x7d']

def compactItems : List Json → Text
  | [] => []
  | [v] => v.compact
  | v :: vs => v.compact ++ ',' :: compactItems vs

def compactMembers : List (Text × Json) → Text
  | [] => []
  | [(name, v)] => quote name ++ ':' :: v.compact
  | (name, v) :: ms => quote name ++ ':' :: v.compact ++ ',' :: compactMembers ms

end

/-- The beginning of a line at a level. -/
def newLine (level : Nat) : Text :=
  '\n' :: List.replicate (2 * level) ' '

mutual

/-- A value over several lines; its first line is at the given level.  Empty lists take no line of their own. -/
def prettyAt (level : Nat) : Json → Text
  | .array [] => "[]".toList
  | .array items => '[' :: prettyItems (level + 1) items ++ newLine level ++ [']']
  | .object [] => "\x7b\x7d".toList
  | .object members => '\x7b' :: prettyMembers (level + 1) members ++ newLine level ++ ['\x7d']
  | .null => "null".toList
  | .bool true => "true".toList
  | .bool false => "false".toList
  | .number written => written
  | .string written => quote written

def prettyItems (level : Nat) : List Json → Text
  | [] => []
  | [v] => newLine level ++ v.prettyAt level
  | v :: vs => newLine level ++ v.prettyAt level ++ ',' :: prettyItems level vs

def prettyMembers (level : Nat) : List (Text × Json) → Text
  | [] => []
  | [(name, v)] => newLine level ++ quote name ++ ": ".toList ++ v.prettyAt level
  | (name, v) :: ms =>
    newLine level ++ quote name ++ ": ".toList ++ v.prettyAt level ++ ',' :: prettyMembers level ms

end

def pretty (v : Json) : Text :=
  v.prettyAt 0

end SelectorSyntax.Json
