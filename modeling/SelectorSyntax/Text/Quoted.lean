import SelectorSyntax.Text.Unprintable

/-!
# Quoted texts

A text between double quotes, with escapes for the quote, the backslash and all that does not show on its own.
-/

namespace SelectorSyntax.Text

/-- The escape of a character by its code point in hexadecimal digits. -/
def codePointEscape (c : Char) : Text :=
  "\\u\x7b".toList ++ Nat.toDigits 16 c.toNat ++ "\x7d".toList

/-- A character as it stands between double quotes. -/
def quotedChar (c : Char) : Text :=
  if c = '\x00' then "\\0".toList
  else if c = '\t' then "\\t".toList
  else if c = '\r' then "\\r".toList
  else if c = '\n' then "\\n".toList
  else if c = '"' then "\\\"".toList
  else if c = '\\' then "\\\\".toList
  else if isUnprintable c then codePointEscape c
  else [c]

def quoted (t : Text) : Text :=
  '"' :: t.flatMap quotedChar ++ ['"']

end SelectorSyntax.Text
