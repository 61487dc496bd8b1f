/-!
# Binary64 numbers

A finite number is held as the rational it stands for, so comparing and dividing are exact and only
`Binary64.round` knows about the 53 binary places.
-/
namespace ShapePuzzle

inductive Binary64 where
  | nan
  | infinite (negative : Bool)
  | negativeZero
  | finite (value : Rat)
  deriving DecidableEq, Inhabited

namespace Binary64

/-- The quotient to the nearest whole number, a tie going to the even one. -/
def roundDiv (n d : Nat) : Nat :=
  let q := n / d
  let r := n % d
  if 2 * r < d then q else if d < 2 * r then q + 1 else q + q % 2

/-- The power of two as a fraction, for either sign of the exponent. -/
def power (e : Int) : Nat × Nat :=
  if 0 ≤ e then (Nat.pow 2 e.toNat, 1) else (1, Nat.pow 2 (-e).toNat)

/-- The exponent of the leading binary place of `n / d`. -/
def leadingPlace (n d : Nat) : Int :=
  let guess : Int := n.log2 - d.log2
  let p := power guess
  if d * p.1 ≤ n * p.2 then guess else guess - 1

/-- The exponent of the last binary place kept for `n / d`. -/
def lastPlace (n d : Nat) : Int :=
  max (leadingPlace n d - 52) (-1074)

/-- The number nearest to `± n / d`. -/
def roundFraction (negative : Bool) (n d : Nat) : Binary64 :=
  let p := power (lastPlace n d)
  let m := roundDiv (n * p.2) (d * p.1)
  if m = 0 then if negative then negativeZero else finite 0
  else
    let top := m * p.1
    if Nat.pow 2 1024 * p.2 ≤ top then infinite negative
    else finite (mkRat (if negative then -(top : Int) else top) p.2)

def round (q : Rat) : Binary64 :=
  if q = 0 then finite 0 else roundFraction (q < 0) q.num.natAbs q.den

/-- The number nearest to the decimal `± digits · 10 ^ exponent`. -/
def ofDecimal (negative : Bool) (digits : Nat) (exponent : Int) : Binary64 :=
  if digits = 0 then if negative then negativeZero else finite 0
  else if 400 < exponent then infinite negative
  else if exponent + (digits.log2 / 3 + 1 : Nat) < -400 then if negative then negativeZero else finite 0
  else if 0 ≤ exponent then roundFraction negative (digits * Nat.pow 10 exponent.toNat) 1
  else roundFraction negative digits (Nat.pow 10 (-exponent).toNat)

/-- The number nearest to an integer, unless it lies beyond every finite number. -/
def ofInt? (n : Int) : Option Binary64 :=
  match round n with
  | infinite _ => none
  | x => some x

def value? : Binary64 → Option Rat
  | finite q => some q
  | negativeZero => some 0
  | _ => none

def sub : Binary64 → Binary64 → Binary64
  | nan, _ => nan
  | _, nan => nan
  | infinite s, infinite t => if s = t then nan else infinite s
  | infinite s, _ => infinite s
  | _, infinite t => infinite (!t)
  | x, y =>
    match x.value?, y.value? with
    | some p, some q =>
      if p = q then if x = negativeZero ∧ y = finite 0 then negativeZero else finite 0
      else round (p - q)
    | _, _ => nan

end Binary64
end ShapePuzzle
