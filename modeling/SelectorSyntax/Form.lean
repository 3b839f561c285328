import SelectorSyntax.Attribute
import SelectorSyntax.Json.Reader
import SelectorSyntax.Json.Writer
import SelectorSyntax.Negation

/-!
# JSON forms

How classifications and the parts of selectors are written as JSON values, and read back.

Each of them is an object.  It may also be read from an array of its fields in their order.  Members with other
names are skipped, but no member of a field may occur twice; a field that may be absent is null or left out.  A
named value may also be read from an object with that name and null.
-/

namespace SelectorSyntax.Form

/-- The text of a string. -/
def text? : Json → Option Text
  | .string written => Json.unescape? written
  | _ => none

/-- Null, or a value that the reader accepts. -/
def optional? {α : Type} (read : Json → Option α) : Json → Option (Option α)
  | .null => some none
  | v => (read v).map some

/-- One of several named values: its name, or an object with its name and null. -/
def named? {α : Type} (ofName : Text → Option α) : Json → Option α
  | .string written => (Json.unescape? written).bind ofName
  | .object [(written, .null)] => (Json.unescape? written).bind ofName
  | _ => none

/-- The names of all members as texts, with their values. -/
def members? (members : List (Text × Json)) : Option (List (Text × Json)) :=
  members.mapM fun (written, v) => (Json.unescape? written).map (·, v)

/-- The value of the member with a name.  It is an error (the outer `none`) if there are several. -/
def field? (members : List (Text × Json)) (name : String) : Option (Option Json) :=
  match members.filter (·.1 == name.toList) with
  | [] => some none
  | [(_, v)] => some (some v)
  | _ => none

/-- The values of the fields: of an object those of its members, of an array its items.  An absent field has no
value, and only the fields after the first `required` may be absent at the end of an array. -/
def fields? (names : List String) (required : Nat) : Json → Option (List (Option Json))
  | .object members => do
    let members ← members? members
    names.mapM (field? members)
  | .array items =>
    if required ≤ items.length && items.length ≤ names.length then
      some (items.map some ++ List.replicate (names.length - items.length) none)
    else none
  | _ => none

/-- A field that must be there. -/
def present? {α : Type} (read : Json → Option α) : Option Json → Option α
  | some v => read v
  | none => none

/-- A field that may be absent. -/
def absentable? {α : Type} (read : Json → Option α) : Option Json → Option (Option α)
  | some v => optional? read v
  | none => some none

/-! ### Categories and classifications -/

def ofCategory (c : Category) : Json :=
  .ofName c.name

def category? : Json → Option Category :=
  named? Category.ofName?

/-- A namespace is written only where there is one. -/
def ofClassification (c : Classification) : Json :=
  .object
    (Json.member "category" (ofCategory c.category) :: Json.optionalMember "namespace" Json.ofText c.qualifier)

def classification? (v : Json) : Option Classification :=
  match fields? ["category", "namespace"] 1 v with
  | some [category, qualifier] => do
    return ⟨← present? category? category, ← absentable? text? qualifier⟩
  | _ => none

/-! ### Attributes -/

def ofOperator (o : Attribute.Operator) : Json :=
  .ofName o.symbol

def operator? : Json → Option Attribute.Operator :=
  named? Attribute.Operator.ofSymbol?

def ofAttribute (a : Attribute) : Json :=
  .object
    [Json.member "namespace" (.ofOption Json.ofText a.qualifier), Json.member "name" (.ofText a.name),
      Json.member "symbol" (.ofOption ofOperator a.operator), Json.member "value" (.ofOption Json.ofText a.value)]

def attribute? (v : Json) : Option Attribute :=
  match fields? ["namespace", "name", "symbol", "value"] 4 v with
  | some [qualifier, name, operator, value] => do
    return ⟨← absentable? text? qualifier, ← present? text? name, ← absentable? operator? operator,
      ← absentable? text? value⟩
  | _ => none

/-! ### Pseudos -/

def ofColons (c : Colons) : Json :=
  .ofNat c.count

/-- Only the integers 1 and 2, written without a sign, a fraction or an exponent. -/
def colons? : Json → Option Colons
  | .number ['1'] => some .one
  | .number ['2'] => some .two
  | _ => none

def ofPseudo (p : Pseudo) : Json :=
  .object
    [Json.member "vendor" (.ofOption Json.ofText p.vendor), Json.member "name" (.ofText p.name),
      Json.member "args" (.ofOption Json.ofText p.argument), Json.member "colons" (.ofOption ofColons p.colons)]

def pseudo? (v : Json) : Option Pseudo :=
  match fields? ["vendor", "name", "args", "colons"] 4 v with
  | some [vendor, name, argument, colons] => do
    return ⟨← absentable? text? vendor, ← present? text? name, ← absentable? text? argument,
      ← absentable? colons? colons⟩
  | _ => none

/-! ### Negations -/

def ofNegation (n : Negation) : Json :=
  .object [Json.member "selector" (.ofText n.selector), Json.member "type" (ofCategory n.category)]

def negation? (v : Json) : Option Negation :=
  match fields? ["selector", "type"] 2 v with
  | some [selector, category] => do
    return ⟨← present? text? selector, ← present? category? category⟩
  | _ => none

end SelectorSyntax.Form
