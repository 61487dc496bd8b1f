import ShapePuzzle.Number.Binary64

/-!
# The fewest digits that read back

A positive number is written with the fewest decimal digits that round to it again, and among those
with the digits nearest to it. A layout then places the point or the exponent.
-/
namespace ShapePuzzle

/-- Decimal digits, read as the fraction `0.d₁d₂… · 10 ^ point`. -/
structure Digits where
  digits : Nat
  count : Nat
  point : Int
  deriving DecidableEq, Inhabited

namespace Digits

def readsBack (digits : Nat) (exponent : Int) (q : Rat) : Bool :=
  Binary64.ofDecimal false digits exponent = .finite q

/-- The power of ten as a fraction, for either sign of the exponent. -/
def tenPower (e : Int) : Nat × Nat :=
  if 0 ≤ e then (Nat.pow 10 e.toNat, 1) else (1, Nat.pow 10 (-e).toNat)

/-- How many times `n` can be divided by ten before nothing is left. -/
def length : Nat → Nat
  | n => if n < 10 then 1 else length (n / 10) + 1
termination_by n => n
decreasing_by omega

/-- The exponent `e` with `10 ^ (e - 1) ≤ q < 10 ^ e`. -/
def decimalPoint (n d : Nat) : Int :=
  let guess : Int := (length n : Int) - length d
  let p := tenPower guess
  if d * p.1 ≤ n * p.2 then guess + 1 else guess

/-- The nearer of the two neighbours of `n / d` on the grid of `count` digits that reads back. -/
def onGrid? (q : Rat) (point : Int) (count : Nat) : Option (Nat × Int) :=
  let exponent := point - count
  let p := tenPower exponent
  let n := q.num.natAbs * p.2
  let d := q.den * p.1
  let low := n / d
  let nearLow := 2 * (n % d) < d ∨ 2 * (n % d) = d ∧ low % 2 = 0
  let first := if nearLow then low else low + 1
  let second := if nearLow then low + 1 else low
  if readsBack first exponent q then some (first, exponent)
  else if readsBack second exponent q then some (second, exponent)
  else none

/-- Drops the zeros at the end of the digits. -/
def trim (digits : Nat) (exponent : Int) : Nat → Nat × Int
  | 0 => (digits, exponent)
  | k + 1 => if digits % 10 = 0 then trim (digits / 10) (exponent + 1) k else (digits, exponent)

/-- The digits of a positive number; seventeen are always enough. -/
def shortest (q : Rat) : Digits :=
  let point := decimalPoint q.num.natAbs q.den
  let found := (List.range' 1 17).findSome? (onGrid? q point)
  let (digits, exponent) := found.getD (0, 0)
  let (digits, exponent) := trim digits exponent 17
  ⟨digits, length digits, exponent + length digits⟩

end Digits

/-- How digits are laid out. -/
structure DecimalLayout where
  /-- Values with their point in this range are written without an exponent. -/
  firstPlain : Int
  lastPlain : Int
  exponentMark : String
  exponentWidth : Nat
  notANumber : String
  infinity : String

namespace DecimalLayout

def plain (layout : DecimalLayout) (x : Digits) : Bool :=
  layout.firstPlain ≤ x.point ∧ x.point ≤ layout.lastPlain

def padded (width : Nat) (n : Nat) : String :=
  let s := toString n
  String.ofList (List.replicate (width - s.length) '0') ++ s

def scientific (layout : DecimalLayout) (x : Digits) : String :=
  let cs := (toString x.digits).toList
  let e := x.point - 1
  let mantissa := match cs with
    | [] => ""
    | [c] => String.singleton c
    | c :: rest => String.ofList (c :: '.' :: rest)
  mantissa ++ layout.exponentMark ++ (if e < 0 then "-" else "+") ++ padded layout.exponentWidth e.natAbs

def positional (x : Digits) : String :=
  let cs := (toString x.digits).toList
  if x.point ≤ 0 then
    "0." ++ String.ofList (List.replicate (-x.point).toNat '0' ++ cs)
  else if x.count ≤ x.point then
    String.ofList (cs ++ List.replicate (x.point - x.count).toNat '0') ++ ".0"
  else
    String.ofList (cs.take x.point.toNat) ++ "." ++ String.ofList (cs.drop x.point.toNat)

def magnitude (layout : DecimalLayout) (q : Rat) : String :=
  if q = 0 then "0.0"
  else
    let x := Digits.shortest q
    if layout.plain x then positional x else layout.scientific x

def write (layout : DecimalLayout) : Binary64 → String
  | .nan => layout.notANumber
  | .infinite false => layout.infinity
  | .infinite true => "-" ++ layout.infinity
  | .negativeZero => "-0.0"
  | .finite q => if q < 0 then "-" ++ layout.magnitude (-q) else layout.magnitude q

end DecimalLayout
end ShapePuzzle
