import SelectorSyntax.Pattern.Basic

/-!
# Lexemes

The tokens of the lexical scanner of CSS 2.1 on which the selectors grammar is built, as patterns: blanks,
escapes, identifiers, strings, numbers, and the spellings of the letters of the keywords `not`, `odd` and
`even`.

Keywords and hexadecimal digits ignore ASCII case, and this is spelled out in the character sets.  A hexadecimal
escape has up to six digits and takes one blank after it, where carriage return and line feed together count as
one.
-/

namespace SelectorSyntax.Lexeme

open Pattern

def digit : Pattern :=
  within [.between '0' '9']

def hexDigit : Pattern :=
  within [.between '0' '9', .between 'a' 'f', .between 'A' 'F']

/-- Every character from U+00A0 on. -/
def nonAscii : Pattern :=
  outside [⟨0, 0x9F⟩]

def blank : Pattern :=
  oneOf " \t\r\n\x0c"

def blanks : Pattern :=
  plus blank

def optionalBlanks : Pattern :=
  star blank

def newline : Pattern :=
  choice [char '\n', word "\r\n", char '\r', char '\x0c']

/-- The blank that ends a hexadecimal escape, if there is one. -/
def escapeEnd : Pattern :=
  optional (.alt (word "\r\n") blank)

/-- A backslash and one to six hexadecimal digits. -/
def hexEscape : Pattern :=
  concat [char '\\', .rounds true 1 (some 6) hexDigit, escapeEnd]

/-- A hexadecimal escape, or a backslash before a character that is neither such a digit nor ends a line. -/
def escape : Pattern :=
  .alt hexEscape <| .seq (char '\\') <| outside
    [.one '\r', .one '\n', .one '\x0c', .between '0' '9', .between 'a' 'f', .between 'A' 'F']

def nameStart : Pattern :=
  choice [within [.one '_', .between 'a' 'z', .between 'A' 'Z'], nonAscii, escape]

def nameChar : Pattern :=
  choice
    [within [.one '_', .between 'a' 'z', .between 'A' 'Z', .between '0' '9', .one '-'], nonAscii, escape]

/-- Identifiers begin with at most one hyphen, which no digit follows. -/
def ident : Pattern :=
  concat [optional (char '-'), nameStart, star nameChar]

def name : Pattern :=
  plus nameChar

def number : Pattern :=
  .alt (plus digit) (concat [star digit, char '.', plus digit])

/-- A string between two quotes; inside it a quote, a backslash or a line end is escaped. -/
def quoted (quote : Char) : Pattern :=
  concat
    [char quote,
      star <| choice
        [outside [.one '\n', .one '\r', .one '\x0c', .one '\\', .one quote],
          .seq (char '\\') newline, nonAscii, escape],
      char quote]

def doubleQuoted : Pattern :=
  quoted '"'

def singleQuoted : Pattern :=
  quoted '\''

def string : Pattern :=
  .alt doubleQuoted singleQuoted

/-- A letter in either case, or escaped with up to four zeros and one of its two code points. -/
def letter (cases : String) (codes : List Pattern) : Pattern :=
  .alt (oneOf cases)
    (concat [char '\\', .rounds true 0 (some 4) (char '0'), choice codes, escapeEnd])

/-- A letter that is no hexadecimal digit may also follow a backslash as it is. -/
def plainLetter (cases : String) (codes : List Pattern) : Pattern :=
  choice
    [oneOf cases,
      concat [char '\\', .rounds true 0 (some 4) (char '0'), choice codes, escapeEnd],
      .seq (char '\\') (oneOf cases)]

def letterD : Pattern :=
  letter "dD" [word "44", word "64"]

def letterE : Pattern :=
  letter "eE" [word "45", word "65"]

def letterN : Pattern :=
  plainLetter "nN" [.seq (char '4') (oneOf "eE"), .seq (char '6') (oneOf "eE")]

def letterO : Pattern :=
  plainLetter "oO" [.seq (char '4') (oneOf "fF"), .seq (char '6') (oneOf "fF")]

def letterT : Pattern :=
  plainLetter "tT" [word "54", word "74"]

def letterV : Pattern :=
  plainLetter "vV" [word "56", word "76"]

def includes : Pattern :=
  word "~="

def dashMatch : Pattern :=
  word "|="

def leadMatch : Pattern :=
  word "^="

def endMatch : Pattern :=
  word "$="

def substringMatch : Pattern :=
  word "*="

/-- The name of a function with its opening parenthesis. -/
def function : Pattern :=
  .seq ident (char '(')

def hash : Pattern :=
  .seq (char '#') name

def plusSign : Pattern :=
  .seq optionalBlanks (char '+')

def greater : Pattern :=
  .seq optionalBlanks (char '>')

def comma : Pattern :=
  .seq optionalBlanks (char ',')

def tilde : Pattern :=
  .seq optionalBlanks (char '~')

/-- The word `:not(` in any of its spellings. -/
def not : Pattern :=
  concat [char ':', letterN, letterO, letterT, char '(']

def dimension : Pattern :=
  .seq number ident

end SelectorSyntax.Lexeme
