import SelectorSyntax.Classification

/-!
# Pseudo-classes and pseudo-elements

A pseudo taken apart: the vendor's mark, the name, the argument, and the number of colons of the pseudo-elements
that may be written with one or two.
-/

namespace SelectorSyntax

inductive Colons
  | one
  | two
deriving DecidableEq, Repr

namespace Colons

def count : Colons → Nat
  | one => 1
  | two => 2

def ofCount? : Nat → Option Colons
  | 1 => some one
  | 2 => some two
  | _ => none

/-- The message about a number of colons that no pseudo-element has. -/
def refusal (count : Nat) : Text :=
  "a pseudo-element has 1 or 2 colons, not ".toList ++ Nat.toDigits 10 count

end Colons

structure Pseudo where
  vendor : Option Text
  name : Text
  argument : Option Text
  colons : Option Colons
deriving DecidableEq, Repr

namespace Pseudo

/-- The vendor's mark, up to its hyphen, and the rest of the name. -/
structure VendorParts where
  vendor : Text
  rest : Text
deriving DecidableEq, Repr

def VendorParts.ofText? (t : Text) : Option VendorParts := do
  let trail ← Rule.vendorParts.whole? t
  return ⟨← Event.part? "vendor" trail, ← Event.part? "rest" trail⟩

/-- The text after its colons, at most two of them. -/
def bare : Text → Text
  | ':' :: ':' :: t => t
  | ':' :: t => t
  | t => t

/-- What stands between the first opening parenthesis and a closing one at the end. -/
def argumentOf? (t : Text) : Option Text :=
  (Text.cutAt? '(' t).bind fun (_, rest) => Text.dropEnd? ')' rest

/-- The number of colons of a pseudo-element that may be written with one or two. -/
def colonsOf? (t : Text) : Option Colons :=
  if Text.isListed legacyElements (bare t) then
    some (if (Text.dropLead? "::".toList t).isSome then .two else .one)
  else none

/-- The parts of a text that is known to be a pseudo. -/
def split (t : Text) : Pseudo :=
  let parts := VendorParts.ofText? t
  let unmarked := match parts with
    | some p => p.rest
    | none => t.dropWhile (· = ':')
  { vendor := parts.map (·.vendor)
    name := match Text.cutAt? '(' unmarked with
      | some (name, _) => name
      | none => unmarked
    argument := if isValidElement t then none else argumentOf? t
    colons := colonsOf? t }

/-- The parts of a pseudo-class or pseudo-element; of the empty text there are none. -/
def ofText (t : Text) : Except SelectorError (Option Pseudo) :=
  if t.isEmpty then .ok none
  else
    match Classification.ofText t with
    | .error e => .error e
    | .ok c =>
      if c.category.isPseudo then .ok (some (split t))
      else .error (.wrongCategory .pseudo c.category t)

end Pseudo

end SelectorSyntax
