import SelectorSyntax.Form
import SelectorSyntax.Text.Quoted
import SelectorSyntax.Token
import SelectorSyntax.Validation

/-!
# Reports

Everything known about a selector, token by token, as a JSON value and as lines for a terminal.
-/

namespace SelectorSyntax

/-- The parts of a token, by its category. -/
inductive TokenDetail
  | plain
  | attribute (a : Attribute)
  | pseudo (p : Pseudo)
  | negation (n : Negation)
deriving DecidableEq, Repr

/-- A token with its classification, its validity and its parts. -/
structure TokenReport where
  text : Text
  offset : Nat
  category : Category
  qualifier : Option Text
  valid : Bool
  detail : TokenDetail
deriving DecidableEq, Repr

structure Report where
  sequence : Text
  elements : List (List Text)
  tokens : List TokenReport
deriving DecidableEq, Repr

namespace TokenDetail

/-- The parts of a text of the given category.  A negation whose argument is refused has none. -/
def ofText (t : Text) (category : Category) : Except SelectorError TokenDetail :=
  match category with
  | .attribute => (Attribute.ofText t).map (·.elim .plain .attribute)
  | .pseudoClass | .pseudoElement => (Pseudo.ofText t).map (·.elim .plain .pseudo)
  | .negation =>
    match Negation.ofText t with
    | .ok (some n) => .ok (.negation n)
    | _ => .ok .plain
  | _ => .ok .plain

def members : TokenDetail → List (Text × Json)
  | .plain => []
  | .attribute a => [Json.member "attribute" (Form.ofAttribute a)]
  | .pseudo p => [Json.member "pseudo" (Form.ofPseudo p)]
  | .negation n => [Json.member "negation" (Form.ofNegation n)]

end TokenDetail

namespace TokenReport

def ofToken (strict : Bool) (token : Token) : Except SelectorError TokenReport := do
  let t := token.text
  let c ← Classification.ofText t
  let detail ← TokenDetail.ofText t c.category
  return ⟨t, token.offset, c.category, c.qualifier, isValidSelector strict t, detail⟩

def toJson (r : TokenReport) : Json :=
  .object
    ([Json.member "text" (.ofText r.text), Json.member "offset" (.ofNat r.offset),
        Json.member "category" (Form.ofCategory r.category)]
      ++ Json.optionalMember "namespace" Json.ofText r.qualifier
      ++ Json.member "valid" (.bool r.valid) :: r.detail.members)

end TokenReport

namespace Report

/-- The report on a selector, if it can be cut into tokens. -/
def ofText (strict : Bool) (t : Text) : Except SelectorError Report := do
  let tokens ← Token.ofText t
  let reports ← tokens.mapM (TokenReport.ofToken strict)
  return ⟨t, ← Token.elements t, reports⟩

/-- Whether every token is valid. -/
def isValid (r : Report) : Bool :=
  r.tokens.all (·.valid)

def toJson (r : Report) : Json :=
  .object
    [Json.member "sequence" (.ofText r.sequence),
      Json.member "elements" (.array (r.elements.map fun e => .array (e.map Json.ofText))),
      Json.member "tokens" (.array (r.tokens.map TokenReport.toJson))]

end Report

end SelectorSyntax
