import SelectorSyntax.Text

/-!
# JSON values

Values keep strings and numbers in their written form: a string as it stands between its quotes, a number as its
digits. `escape` writes a text and `unescape?` reads it back; some written strings have no text, because an
escape in them stands for half a character.
-/

namespace SelectorSyntax

inductive Json
  | null
  | bool (b : Bool)
  | number (written : Text)
  | string (written : Text)
  | array (items : List Json)
  | object (members : List (Text × Json))
deriving Repr

namespace Json

/-- The last digit of a hexadecimal number, in lower case. -/
def hexDigit (n : Nat) : Char :=
  Nat.digitChar (n % 16)

/-- A character as it stands in a JSON string.  Only quotes, backslashes and the characters below the blank are
escaped. -/
def escapeChar (c : Char) : Text :=
  if c = '"' then "\\\"".toList
  else if c = '\\' then "\\\\".toList
  else if c = '\x08' then "\\b".toList
  else if c = '\x0c' then "\\f".toList
  else if c = '\n' then "\\n".toList
  else if c = '\r' then "\\r".toList
  else if c = '\t' then "\\t".toList
  else if c.toNat < 0x20 then "\\u00".toList ++ [hexDigit (c.toNat / 16), hexDigit c.toNat]
  else [c]

def escape (t : Text) : Text :=
  t.flatMap escapeChar

/-- The value of a hexadecimal digit. -/
def hexValue? (c : Char) : Option Nat :=
  if '0' ≤ c && c ≤ '9' then some (c.toNat - '0'.toNat)
  else if 'a' ≤ c && c ≤ 'f' then some (c.toNat - 'a'.toNat + 10)
  else if 'A' ≤ c && c ≤ 'F' then some (c.toNat - 'A'.toNat + 10)
  else none

/-- The number written by four hexadecimal digits. -/
def unit? (a b c d : Char) : Option Nat := do
  return (((← hexValue? a) * 16 + (← hexValue? b)) * 16 + (← hexValue? c)) * 16 + (← hexValue? d)

/-- The character that a backslash and a letter stand for. -/
def shortEscape? : Char → Option Char
  | '"' => some '"'
  | '\\' => some '\\'
  | '/' => some '/'
  | 'b' => some '\x08'
  | 'f' => some '\x0c'
  | 'n' => some '\n'
  | 'r' => some '\r'
  | 't' => some '\t'
  | _ => none

/-- Whether a UTF-16 unit is the first half of a character. -/
def isHighHalf (n : Nat) : Bool :=
  0xD800 ≤ n && n < 0xDC00

/-- Whether a UTF-16 unit is the second half of a character. -/
def isLowHalf (n : Nat) : Bool :=
  0xDC00 ≤ n && n < 0xE000

/-- The text of a written string.  There is none if half a character stands alone. -/
def unescape? : Text → Option Text
  | [] => some []
  | '\\' :: 'u' :: a :: b :: c :: d :: t =>
    match unit? a b c d with
    | none => none
    | some high =>
      if isLowHalf high then none
      else if isHighHalf high then
        match t with
        | '\\' :: 'u' :: e :: f :: g :: h :: t =>
          match unit? e f g h with
          | none => none
          | some low =>
            if isLowHalf low then
              (unescape? t).map (Char.ofNat (0x10000 + (high - 0xD800) * 0x400 + (low - 0xDC00)) :: ·)
            else none
        | _ => none
      else (unescape? t).map (Char.ofNat high :: ·)
  | '\\' :: e :: t =>
    match shortEscape? e with
    | some c => (unescape? t).map (c :: ·)
    | none => none
  | '\\' :: [] => none
  | c :: t => (unescape? t).map (c :: ·)

def ofText (t : Text) : Json :=
  .string (escape t)

def ofName (name : String) : Json :=
  ofText name.toList

def ofNat (n : Nat) : Json :=
  .number (Nat.toDigits 10 n)

/-- The value, or null where there is none. -/
def ofOption {α : Type} (f : α → Json) : Option α → Json
  | some a => f a
  | none => .null

/-- A member with the given name. -/
def member (name : String) (value : Json) : Text × Json :=
  (escape name.toList, value)

/-- A member with the given name where there is a value, and nothing where there is none. -/
def optionalMember {α : Type} (name : String) (f : α → Json) : Option α → List (Text × Json)
  | some a => [member name (f a)]
  | none => []

end Json

end SelectorSyntax
