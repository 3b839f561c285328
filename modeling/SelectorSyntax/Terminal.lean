import SelectorSyntax.Report

/-!
# Reports on a terminal

Colours, columns, and the lines of a report.
-/

namespace SelectorSyntax.Terminal

def escapeCode (code : String) : Text :=
  "\x1b[".toList ++ code.toList ++ "m".toList

/-- A text in a colour, which the default colour ends. -/
def coloured (code : String) (t : Text) : Text :=
  escapeCode code ++ t ++ escapeCode "39"

def red (t : Text) : Text :=
  coloured "31" t

def green (t : Text) : Text :=
  coloured "32" t

def cyan (t : Text) : Text :=
  coloured "36" t

def bold (t : Text) : Text :=
  escapeCode "1" ++ t ++ escapeCode "0"

def tick : Text :=
  green "✓".toList

def cross : Text :=
  red "✗".toList

/-- Blanks before the text up to a width. -/
def padLeft (width : Nat) (t : Text) : Text :=
  List.replicate (width - t.length) ' ' ++ t

/-- Blanks after the text up to a width. -/
def padRight (width : Nat) (t : Text) : Text :=
  t ++ List.replicate (width - t.length) ' '

/-- A label before a quoted text, where there is a text. -/
def labelled (label : String) : Option Text → Text
  | some t => label.toList ++ Text.quoted t
  | none => []

/-- The parts of a token. -/
def detail : TokenDetail → Text
  | .plain => []
  | .attribute a =>
    "  name=".toList ++ Text.quoted a.name ++
      match a.operator, a.value with
      | some operator, some value => [' '] ++ operator.symbol.toList ++ [' '] ++ Text.quoted value
      | _, _ => []
  | .pseudo p =>
    "  name=".toList ++ Text.quoted p.name ++ labelled " vendor=" p.vendor ++ labelled " args=" p.argument
  | .negation n => "  not ".toList ++ n.category.name.toList ++ [' '] ++ Text.quoted n.selector

/-- The line of a token: its mark, offset, category and text, then its parts. -/
def tokenLine (r : TokenReport) : Text :=
  "  ".toList ++ (if r.valid then tick else cross) ++ [' '] ++ padLeft 4 (Nat.toDigits 10 r.offset) ++ "  ".toList
    ++ padRight 16 r.category.name.toList ++ [' '] ++ Text.quoted r.text ++ labelled "  namespace=" r.qualifier
    ++ detail r.detail ++ ['\n']

/-- The line of an element, numbered from zero. -/
def elementLine (element : List Text) (index : Nat) : Text :=
  "  group ".toList ++ Nat.toDigits 10 index ++ ": ".toList ++ cyan (Text.join [' '] element) ++ ['\n']

/-- A report: the selector, its elements, then its tokens. -/
def ofReport (r : Report) : Text :=
  bold r.sequence ++ ['\n'] ++ (r.elements.zipIdx.map fun (e, i) => elementLine e i).flatten
    ++ (r.tokens.map tokenLine).flatten

end SelectorSyntax.Terminal
