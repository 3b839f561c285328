import SelectorSyntax.Production

/-!
# Derivations

The grammar of selectors as a plain grammar: for each symbol the texts that it derives, by its rule alone.  A rule
puts texts one after the other, chooses between rules, or repeats one (`Maybe`, `Many`, `Several`).  Nothing here
prefers one derivation to another or the longest token to a shorter one, so a text may well have several derivations.

The symbols come in the order of the grammar: the lexical scanner, the selectors, then the arguments of pseudo-classes
and the vendor names.  `Production.Derives` picks the symbol of each production.
-/

namespace SelectorSyntax

/-- A text with the property, or none. -/
inductive Maybe (P : Text → Prop) : Text → Prop
  | absent : Maybe P []
  | present {x : Text} : P x → Maybe P x

/-- Any number of texts with the property, one after the other. -/
inductive Many (P : Text → Prop) : Text → Prop
  | nil : Many P []
  | cons {x y : Text} : P x → Many P y → Many P (x ++ y)

/-- One or more texts with the property, one after the other. -/
inductive Several (P : Text → Prop) : Text → Prop
  | cons {x y : Text} : P x → Many P y → Several P (x ++ y)

section

variable {P Q : Text → Prop} {x y t : Text} {c : Char}

theorem Maybe.of_cons (h : Maybe P (c :: t)) : P (c :: t) := by
  cases h with
  | present h => exact h

theorem Many.one (h : P x) : Many P x := by
  simpa using Many.cons h .nil

theorem Many.append (hx : Many P x) (hy : Many P y) : Many P (x ++ y) := by
  induction hx with
  | nil => exact hy
  | cons hw _ ih =>
    rw [List.append_assoc]
    exact .cons hw ih

/-- The first text of those in a row that is not empty. -/
theorem Many.exists_of_cons (h : Many P (c :: t)) : ∃ x y, t = x ++ y ∧ P (c :: x) ∧ Many P y := by
  generalize ht : c :: t = u at h
  induction h with
  | nil => cases ht
  | @cons x y hx hy ih =>
    cases x with
    | nil => exact ih ht
    | cons d x =>
      obtain ⟨rfl, rfl⟩ := List.cons.inj ht
      exact ⟨x, y, rfl, hx, hy⟩

theorem Several.many (h : Several P x) : Many P x := by
  obtain ⟨hx, hy⟩ := h
  exact .cons hx hy

end

namespace Derivation

/-! ### Lexical scanner -/

/-- `[0-9]` -/
def IsDigit (c : Char) : Prop :=
  '0' ≤ c ∧ c ≤ '9'

/-- `h : [0-9a-fA-F]` -/
def IsHex (c : Char) : Prop :=
  IsDigit c ∨ ('a' ≤ c ∧ c ≤ 'f') ∨ ('A' ≤ c ∧ c ≤ 'F')

/-- `[_a-zA-Z]` -/
def IsLetter (c : Char) : Prop :=
  c = '_' ∨ ('a' ≤ c ∧ c ≤ 'z') ∨ ('A' ≤ c ∧ c ≤ 'Z')

/-- `nonascii`: every character from U+00A0 on. -/
def IsNonAscii (c : Char) : Prop :=
  0xA0 ≤ c.toNat

instance : DecidablePred IsDigit := fun _ => inferInstanceAs (Decidable (_ ∧ _))

instance : DecidablePred IsHex := fun _ => inferInstanceAs (Decidable (_ ∨ _))

instance : DecidablePred IsLetter := fun _ => inferInstanceAs (Decidable (_ ∨ _))

instance : DecidablePred IsNonAscii := fun _ => inferInstanceAs (Decidable (_ ≤ _))

/-- `w : [ \t\r\n\f]*` -/
def Blanks (t : Text) : Prop :=
  ∀ c ∈ t, Text.isBlank c

instance : DecidablePred Blanks := fun t => List.decidableBAll (fun c => Text.isBlank c) t

/-- `[0-9]*` -/
def Digits (t : Text) : Prop :=
  ∀ c ∈ t, IsDigit c

/-- `nl : \n | \r\n | \r | \f` -/
inductive Newline : Text → Prop
  | lineFeed : Newline ['\n']
  | both : Newline ['\r', '\n']
  | carriageReturn : Newline ['\r']
  | formFeed : Newline ['\x0c']

/-- `(\r\n | [ \t\r\n\f])?`, after a hexadecimal escape. -/
inductive EscapeEnd : Text → Prop
  | absent : EscapeEnd []
  | both : EscapeEnd ['\r', '\n']
  | blank {c : Char} : Text.isBlank c → EscapeEnd [c]

/-- `unicode : \\ h{1,6} (\r\n | [ \t\r\n\f])?` -/
inductive HexEscape : Text → Prop
  | mk {digits e : Text} : (∀ c ∈ digits, IsHex c) → 1 ≤ digits.length → digits.length ≤ 6 → EscapeEnd e →
      HexEscape ('\\' :: (digits ++ e))

/-- `escape : unicode | \\ [^\r\n\f0-9a-fA-F]` -/
inductive Escape : Text → Prop
  | hex {t : Text} : HexEscape t → Escape t
  | char {c : Char} : c ≠ '\r' → c ≠ '\n' → c ≠ '\x0c' → ¬ IsHex c → Escape ['\\', c]

/-- `nmstart : [_a-zA-Z] | nonascii | escape` -/
inductive NameStart : Text → Prop
  | letter {c : Char} : IsLetter c → NameStart [c]
  | nonAscii {c : Char} : IsNonAscii c → NameStart [c]
  | escape {t : Text} : Escape t → NameStart t

/-- `nmchar : [_a-zA-Z0-9-] | nonascii | escape` -/
inductive NameChar : Text → Prop
  | letter {c : Char} : IsLetter c → NameChar [c]
  | digit {c : Char} : IsDigit c → NameChar [c]
  | hyphen : NameChar ['-']
  | nonAscii {c : Char} : IsNonAscii c → NameChar [c]
  | escape {t : Text} : Escape t → NameChar t

/-- `ident : -? nmstart nmchar*` -/
inductive Ident : Text → Prop
  | mk {h s u : Text} : Maybe (· = ['-']) h → NameStart s → Many NameChar u → Ident (h ++ s ++ u)

/-- `name : nmchar+` -/
def Name : Text → Prop :=
  Several NameChar

/-- `num : [0-9]+ | [0-9]* '.' [0-9]+` -/
inductive Number : Text → Prop
  | integer {t : Text} : Digits t → t ≠ [] → Number t
  | fraction {a b : Text} : Digits a → Digits b → b ≠ [] → Number (a ++ '.' :: b)

/-- What stands between two quotes: `[^\n\r\f\\"] | \\ nl | nonascii | escape`. -/
inductive StringPart (quote : Char) : Text → Prop
  | plain {c : Char} : c ≠ '\n' → c ≠ '\r' → c ≠ '\x0c' → c ≠ '\\' → c ≠ quote → StringPart quote [c]
  | newline {t : Text} : Newline t → StringPart quote ('\\' :: t)
  | nonAscii {c : Char} : IsNonAscii c → StringPart quote [c]
  | escape {t : Text} : Escape t → StringPart quote t

/-- `string : string1 | string2`, between double or between single quotes. -/
inductive QuotedString : Text → Prop
  | double {t : Text} : Many (StringPart '"') t → QuotedString ('"' :: (t ++ ['"']))
  | single {t : Text} : Many (StringPart '\'') t → QuotedString ('\'' :: (t ++ ['\'']))

/-- A letter of a keyword: one of its `cases`, or an escape `\\ 0{0,4} code (\r\n | [ \t\r\n\f])?` with one of its
codes; a letter that is no hexadecimal digit also after a backslash. -/
inductive Letter (cases : List Char) (codes : List Text) (afterBackslash : Prop) : Text → Prop
  | itself {c : Char} : c ∈ cases → Letter cases codes afterBackslash [c]
  | code {zeros code e : Text} : (∀ c ∈ zeros, c = '0') → zeros.length ≤ 4 → code ∈ codes → EscapeEnd e →
      Letter cases codes afterBackslash ('\\' :: (zeros ++ code ++ e))
  | escaped {c : Char} : afterBackslash → c ∈ cases → Letter cases codes afterBackslash ['\\', c]

def LetterD : Text → Prop :=
  Letter ['d', 'D'] [['4', '4'], ['6', '4']] False

def LetterE : Text → Prop :=
  Letter ['e', 'E'] [['4', '5'], ['6', '5']] False

def LetterN : Text → Prop :=
  Letter ['n', 'N'] [['4', 'e'], ['4', 'E'], ['6', 'e'], ['6', 'E']] True

def LetterO : Text → Prop :=
  Letter ['o', 'O'] [['4', 'f'], ['4', 'F'], ['6', 'f'], ['6', 'F']] True

def LetterT : Text → Prop :=
  Letter ['t', 'T'] [['5', '4'], ['7', '4']] True

def LetterV : Text → Prop :=
  Letter ['v', 'V'] [['5', '6'], ['7', '6']] True

/-- `NOT : ':' N O T '('` -/
inductive NotOpening : Text → Prop
  | mk {n o t : Text} : LetterN n → LetterO o → LetterT t → NotOpening (':' :: (n ++ o ++ t ++ ['(']))

/-! ### Selectors -/

/-- `combinator : PLUS S* | GREATER S* | TILDE S* | S+`, where blanks may come before the symbol. -/
inductive Combinator : Text → Prop
  | symbol {a b : Text} {c : Char} : Blanks a → c = '+' ∨ c = '>' ∨ c = '~' → Blanks b → Combinator (a ++ c :: b)
  | blanks {t : Text} : Blanks t → t ≠ [] → Combinator t

/-- `namespace_prefix : [ IDENT | '*' ]? '|'` -/
inductive NamespaceQualifier : Text → Prop
  | empty : NamespaceQualifier ['|']
  | ident {i : Text} : Ident i → NamespaceQualifier (i ++ ['|'])
  | any : NamespaceQualifier ['*', '|']

/-- `type_selector : [ namespace_prefix ]? IDENT` -/
inductive TypeSelector : Text → Prop
  | mk {n i : Text} : Maybe NamespaceQualifier n → Ident i → TypeSelector (n ++ i)

/-- `universal : [ namespace_prefix ]? '*'` -/
inductive Universal : Text → Prop
  | mk {n : Text} : Maybe NamespaceQualifier n → Universal (n ++ ['*'])

/-- `class : '.' IDENT` -/
inductive ClassSelector : Text → Prop
  | mk {i : Text} : Ident i → ClassSelector ('.' :: i)

/-- `HASH : '#' name` -/
inductive IdSelector : Text → Prop
  | mk {t : Text} : Name t → IdSelector ('#' :: t)

/-- `PREFIXMATCH | SUFFIXMATCH | SUBSTRINGMATCH | '=' | INCLUDES | DASHMATCH` -/
inductive AttributeOperator : Text → Prop
  | lead : AttributeOperator ['^', '=']
  | ending : AttributeOperator ['$', '=']
  | substring : AttributeOperator ['*', '=']
  | equal : AttributeOperator ['=']
  | includes : AttributeOperator ['~', '=']
  | dash : AttributeOperator ['|', '=']

/-- `IDENT | STRING` -/
inductive AttributeValue : Text → Prop
  | ident {t : Text} : Ident t → AttributeValue t
  | string {t : Text} : QuotedString t → AttributeValue t

/-- `operator S* [ IDENT | STRING ] S*` -/
inductive AttributeTest : Text → Prop
  | mk {o a v b : Text} : AttributeOperator o → Blanks a → AttributeValue v → Blanks b →
      AttributeTest (o ++ a ++ v ++ b)

/-- `attrib : '[' S* [ namespace_prefix ]? IDENT S* [ operator S* [ IDENT | STRING ] S* ]? ']'` -/
inductive Attrib : Text → Prop
  | mk {a n i b x : Text} : Blanks a → Maybe NamespaceQualifier n → Ident i → Blanks b → Maybe AttributeTest x →
      Attrib ('[' :: (a ++ n ++ i ++ b ++ x ++ [']']))

/-- `PLUS | '-' | DIMENSION | NUMBER | STRING | IDENT` -/
inductive ExpressionTerm : Text → Prop
  | plus {a : Text} : Blanks a → ExpressionTerm (a ++ ['+'])
  | minus : ExpressionTerm ['-']
  | dimension {n i : Text} : Number n → Ident i → ExpressionTerm (n ++ i)
  | number {t : Text} : Number t → ExpressionTerm t
  | string {t : Text} : QuotedString t → ExpressionTerm t
  | ident {t : Text} : Ident t → ExpressionTerm t

/-- A term and the blanks after it. -/
inductive ExpressionPart : Text → Prop
  | mk {t a : Text} : ExpressionTerm t → Blanks a → ExpressionPart (t ++ a)

/-- `expression : [ [ PLUS | '-' | DIMENSION | NUMBER | STRING | IDENT ] S* ]+` -/
def Expression : Text → Prop :=
  Several ExpressionPart

/-- `functional_pseudo : FUNCTION S* expression ')'`, where `FUNCTION : IDENT '('`. -/
inductive FunctionalPseudo : Text → Prop
  | mk {f a e : Text} : Ident f → Blanks a → Expression e → FunctionalPseudo (f ++ '(' :: (a ++ e ++ [')']))

/-- One colon or two. -/
inductive Colons : Text → Prop
  | one : Colons [':']
  | two : Colons [':', ':']

/-- `pseudo : ':' ':'? [ IDENT | functional_pseudo ]` -/
inductive Pseudo : Text → Prop
  | ident {c i : Text} : Colons c → Ident i → Pseudo (c ++ i)
  | functional {c f : Text} : Colons c → FunctionalPseudo f → Pseudo (c ++ f)

/-- `negation_arg : type_selector | universal | HASH | class | attrib | pseudo` -/
inductive NegationArg : Text → Prop
  | typeSelector {t : Text} : TypeSelector t → NegationArg t
  | universal {t : Text} : Universal t → NegationArg t
  | idSelector {t : Text} : IdSelector t → NegationArg t
  | classSelector {t : Text} : ClassSelector t → NegationArg t
  | attrib {t : Text} : Attrib t → NegationArg t
  | pseudo {t : Text} : Pseudo t → NegationArg t

/-- `negation : NOT S* negation_arg S* ')'` -/
inductive Negation : Text → Prop
  | mk {h a x b : Text} : NotOpening h → Blanks a → NegationArg x → Blanks b → Negation (h ++ a ++ x ++ b ++ [')'])

/-- `HASH | class | attrib | pseudo | negation` -/
inductive Qualifier : Text → Prop
  | idSelector {t : Text} : IdSelector t → Qualifier t
  | classSelector {t : Text} : ClassSelector t → Qualifier t
  | attrib {t : Text} : Attrib t → Qualifier t
  | pseudo {t : Text} : Pseudo t → Qualifier t
  | negation {t : Text} : Negation t → Qualifier t

/-- `simple_selector_sequence : [ type_selector | universal ] qualifier* | qualifier+` -/
inductive SimpleSelectorSequence : Text → Prop
  | typeSelector {s q : Text} : TypeSelector s → Many Qualifier q → SimpleSelectorSequence (s ++ q)
  | universal {s q : Text} : Universal s → Many Qualifier q → SimpleSelectorSequence (s ++ q)
  | qualifiers {q : Text} : Several Qualifier q → SimpleSelectorSequence q

/-- `combinator simple_selector_sequence` -/
inductive CombinedSequence : Text → Prop
  | mk {c s : Text} : Combinator c → SimpleSelectorSequence s → CombinedSequence (c ++ s)

/-- `selector : simple_selector_sequence [ combinator simple_selector_sequence ]*` -/
inductive Selector : Text → Prop
  | mk {s r : Text} : SimpleSelectorSequence s → Many CombinedSequence r → Selector (s ++ r)

/-- `COMMA S* selector`, where blanks may come before the comma. -/
inductive GroupMember : Text → Prop
  | mk {a b s : Text} : Blanks a → Blanks b → Selector s → GroupMember (a ++ ',' :: (b ++ s))

/-- `selectors_group : selector [ COMMA S* selector ]*` -/
inductive SelectorsGroup : Text → Prop
  | mk {s r : Text} : Selector s → Many GroupMember r → SelectorsGroup (s ++ r)

/-! ### Arguments and vendor names -/

/-- `['-'|'+']` -/
inductive Sign : Text → Prop
  | minus : Sign ['-']
  | plus : Sign ['+']

/-- `INTEGER : [0-9]+` -/
def Integer (t : Text) : Prop :=
  Digits t ∧ t ≠ []

/-- `O D D` -/
inductive Odd : Text → Prop
  | mk {a b c : Text} : LetterO a → LetterD b → LetterD c → Odd (a ++ b ++ c)

/-- `E V E N` -/
inductive Even : Text → Prop
  | mk {a b c d : Text} : LetterE a → LetterV b → LetterE c → LetterN d → Even (a ++ b ++ c ++ d)

/-- `S* ['-'|'+'] S* INTEGER` -/
inductive NthOffset : Text → Prop
  | mk {a s b i : Text} : Blanks a → Sign s → Blanks b → Integer i → NthOffset (a ++ s ++ b ++ i)

/-- `['-'|'+']? INTEGER? N [ S* ['-'|'+'] S* INTEGER ]? | ['-'|'+']? INTEGER | O D D | E V E N` -/
inductive NthFormula : Text → Prop
  | coefficient {s i n o : Text} : Maybe Sign s → Maybe Integer i → LetterN n → Maybe NthOffset o →
      NthFormula (s ++ i ++ n ++ o)
  | constant {s i : Text} : Maybe Sign s → Integer i → NthFormula (s ++ i)
  | odd {t : Text} : Odd t → NthFormula t
  | even {t : Text} : Even t → NthFormula t

/-- `nth : S* formula S*` -/
inductive Nth : Text → Prop
  | mk {a f b : Text} : Blanks a → NthFormula f → Blanks b → Nth (a ++ f ++ b)

/-- `':' 'lang' '(' IDENT ')'`, where the case of `lang` does not matter. -/
inductive Lang : Text → Prop
  | mk {l a n g : Char} {i : Text} : l = 'l' ∨ l = 'L' → a = 'a' ∨ a = 'A' → n = 'n' ∨ n = 'N' → g = 'g' ∨ g = 'G' →
      Ident i → Lang ([':', l, a, n, g, '('] ++ i ++ [')'])

/-- `':' ':'? [-_] nmstart nmchar* '-' nmstart nmchar*` -/
inductive VendorPseudo : Text → Prop
  | mk {c s u s' u' : Text} {m : Char} : Colons c → m = '-' ∨ m = '_' → NameStart s → Many NameChar u → NameStart s' →
      Many NameChar u' → VendorPseudo (c ++ m :: (s ++ u ++ '-' :: (s' ++ u')))

end Derivation

open SelectorSyntax.Derivation in
/-- The texts that are derived from the rule of a production. -/
def Production.Derives : Production → Text → Prop
  | ident => Ident
  | string => QuotedString
  | namespaceQualifier => NamespaceQualifier
  | combinator => Combinator
  | typeSelector => TypeSelector
  | universal => Universal
  | classSelector => ClassSelector
  | idSelector => IdSelector
  | attrib => Attrib
  | expression => Expression
  | functionalPseudo => FunctionalPseudo
  | pseudo => Derivation.Pseudo
  | negationArg => NegationArg
  | negation => Derivation.Negation
  | simpleSelectorSequence => SimpleSelectorSequence
  | selector => Selector
  | selectorsGroup => SelectorsGroup
  | nth => Nth
  | lang => Lang
  | vendorPseudo => VendorPseudo

end SelectorSyntax
