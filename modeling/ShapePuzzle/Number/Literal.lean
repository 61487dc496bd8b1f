import ShapePuzzle.Number.Basic

/-!
# Written numbers
-/
namespace ShapePuzzle

def digitValue (c : Char) : Nat := c.toNat - 48

def digitsValue (cs : List Char) : Nat :=
  cs.foldl (fun n c => 10 * n + digitValue c) 0

/-- A minus or a plus, if there is one. -/
def splitSign : List Char → Option Char × List Char
  | '-' :: rest => (some '-', rest)
  | '+' :: rest => (some '+', rest)
  | cs => (none, cs)

/-- A decimal taken apart: its digits before and after the point and its exponent. -/
structure Literal where
  sign : Option Char
  whole : List Char
  fraction : Option (List Char)
  exponent : Option (Option Char × List Char)

namespace Literal

/-- Takes a text apart if nothing is left over; an exponent needs a digit. -/
def ofChars? (cs : List Char) : Option Literal :=
  let (sign, cs) := splitSign cs
  let whole := cs.takeWhile Char.isDigit
  let cs := cs.dropWhile Char.isDigit
  let (fraction, cs) := match cs with
    | '.' :: rest => (some (rest.takeWhile Char.isDigit), rest.dropWhile Char.isDigit)
    | _ => (none, cs)
  match cs with
  | [] => some ⟨sign, whole, fraction, none⟩
  | e :: rest =>
    let (exponentSign, digits) := splitSign rest
    if (e = 'e' ∨ e = 'E') ∧ digits ≠ [] ∧ digits.all Char.isDigit then
      some ⟨sign, whole, fraction, some (exponentSign, digits)⟩
    else none

def isNegative (x : Literal) : Bool := x.sign = some '-'

/-- Neither a point nor an exponent. -/
def isWhole (x : Literal) : Bool := x.fraction.isNone && x.exponent.isNone

def toFloat (x : Literal) : Binary64 :=
  let fraction := x.fraction.getD []
  let scale : Int := match x.exponent with
    | some (some '-', digits) => -(digitsValue digits)
    | some (_, digits) => digitsValue digits
    | none => 0
  .ofDecimal x.isNegative (digitsValue (x.whole ++ fraction)) (scale - fraction.length)

def toInt (x : Literal) : Int :=
  if x.isNegative then -(digitsValue x.whole) else digitsValue x.whole

end Literal
end ShapePuzzle
