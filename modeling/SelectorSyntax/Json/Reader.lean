import SelectorSyntax.Json.Basic

/-!
# Reading JSON

`Json.read?` reads a text that is one JSON value with blanks around it.  Strings are checked but kept as
written, so that a value may hold strings that have no text.
-/

namespace SelectorSyntax.Json

def isBlank (c : Char) : Bool :=
  c == ' ' || c == '\t' || c == '\n' || c == '\r'

def skipBlanks (t : Text) : Text :=
  t.dropWhile isBlank

/-- A written string up to its closing quote, and what follows. -/
def stringBody? : Text → Option (Text × Text)
  | [] => none
  | '"' :: t => some ([], t)
  | '\\' :: 'u' :: a :: b :: c :: d :: t =>
    if (unit? a b c d).isSome then
      (stringBody? t).map fun (s, rest) => ('\\' :: 'u' :: a :: b :: c :: d :: s, rest)
    else none
  | '\\' :: e :: t =>
    if (shortEscape? e).isSome then (stringBody? t).map fun (s, rest) => ('\\' :: e :: s, rest) else none
  | '\\' :: [] => none
  | c :: t => if c.toNat < 0x20 then none else (stringBody? t).map fun (s, rest) => (c :: s, rest)

def isDigits (t : Text) : Bool :=
  !t.isEmpty && t.all Char.isDigit

/-- An integer without needless zeros before it. -/
def isInteger (t : Text) : Bool :=
  isDigits t && (t.length == 1 || t.head? != some '0')

/-- The sign, then the digits, of an exponent. -/
def isExponent : Text → Bool
  | '+' :: t => isDigits t
  | '-' :: t => isDigits t
  | t => isDigits t

/-- Cuts at the exponent mark: what precedes it, and the exponent if there is one. -/
def cutExponent (t : Text) : Text × Option Text :=
  match t.span fun c => c != 'e' && c != 'E' with
  | (before, []) => (before, none)
  | (before, _ :: exponent) => (before, some exponent)

/-- Whether the text is a number: an integer, a fraction if there is a point, and an exponent if there is a
mark. -/
def isNumber (t : Text) : Bool :=
  let unsigned := match t with
    | '-' :: t => t
    | t => t
  let (mantissa, exponent) := cutExponent unsigned
  exponent.all isExponent &&
    match Text.cutAt? '.' mantissa with
    | some (whole, fraction) => isInteger whole && isDigits fraction
    | none => isInteger mantissa

def isNumberChar (c : Char) : Bool :=
  c.isDigit || c == '-' || c == '+' || c == '.' || c == 'e' || c == 'E'

def number? (t : Text) : Option (Json × Text) :=
  let (written, rest) := t.span isNumberChar
  if isNumber written then some (.number written, rest) else none

/-- A word that stands for a value. -/
def keyword? (t : Text) : Option (Json × Text) :=
  match Text.dropLead? "null".toList t with
  | some rest => some (.null, rest)
  | none =>
    match Text.dropLead? "true".toList t with
    | some rest => some (.bool true, rest)
    | none => (Text.dropLead? "false".toList t).map fun rest => (.bool false, rest)

mutual

/-- The value at the beginning of a text, after blanks. -/
def value? : (fuel : Nat) → Text → Option (Json × Text)
  | 0, _ => none
  | fuel + 1, t =>
    match skipBlanks t with
    | [] => none
    | '"' :: t => (stringBody? t).map fun (s, rest) => (.string s, rest)
    | '[' :: t =>
      match skipBlanks t with
      | ']' :: rest => some (.array [], rest)
      | t => (items? fuel t).map fun (vs, rest) => (.array vs, rest)
    | '\x7b' :: t =>
      match skipBlanks t with
      | '\x7d' :: rest => some (.object [], rest)
      | t => (members? fuel t).map fun (ms, rest) => (.object ms, rest)
    | c :: t => if c == '-' || c.isDigit then number? (c :: t) else keyword? (c :: t)

/-- The items of an array up to its closing bracket. -/
def items? : (fuel : Nat) → Text → Option (List Json × Text)
  | 0, _ => none
  | fuel + 1, t =>
    match value? fuel t with
    | none => none
    | some (v, t) =>
      match skipBlanks t with
      | ']' :: rest => some ([v], rest)
      | ',' :: t => (items? fuel t).map fun (vs, rest) => (v :: vs, rest)
      | _ => none

/-- The members of an object up to its closing brace. -/
def members? : (fuel : Nat) → Text → Option (List (Text × Json) × Text)
  | 0, _ => none
  | fuel + 1, t =>
    match skipBlanks t with
    | '"' :: t =>
      match stringBody? t with
      | none => none
      | some (name, t) =>
        match skipBlanks t with
        | ':' :: t =>
          match value? fuel t with
          | none => none
          | some (v, t) =>
            match skipBlanks t with
            | '\x7d' :: rest => some ([(name, v)], rest)
            | ',' :: t => (members? fuel t).map fun (ms, rest) => ((name, v) :: ms, rest)
            | _ => none
        | _ => none
    | _ => none

end

/-- The value that a text is, with blanks around it. -/
def read? (t : Text) : Option Json :=
  match value? (t.length + 1) t with
  | some (v, rest) => if (skipBlanks rest).isEmpty then some v else none
  | none => none

end SelectorSyntax.Json
