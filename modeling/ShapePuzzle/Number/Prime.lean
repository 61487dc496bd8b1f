import ShapePuzzle.Number.Basic

/-!
# Primes by trial division
-/
namespace ShapePuzzle

/-- Whether none of `d`, `d + 2`, … up to the square root divides `n`. -/
def noDivisorFrom (n d : Nat) : Bool :=
  if h : 0 < d ∧ d * d ≤ n then
    if n % d = 0 then false else noDivisorFrom n (d + 2)
  else true
termination_by n + 1 - d
decreasing_by
  have : d ≤ d * d := Nat.le_mul_of_pos_left d h.1
  omega

def isPrime (n : Int) : Bool :=
  if n < 2 then false
  else if n = 2 then true
  else if n % 2 = 0 then false
  else noDivisorFrom n.toNat 3

/-- Trial division finds no divisor of a number that is not whole, nor of one that is not a number;
against an infinite one the divisors outgrow every float. -/
def Number.isPrime? : Number → Option Bool
  | int n => some (isPrime n)
  | float (.finite q) => some (if q.den = 1 then isPrime q.num else decide (2 ≤ q))
  | float .negativeZero => some false
  | float (.infinite negative) => if negative then some false else none
  | float .nan => some true

end ShapePuzzle
