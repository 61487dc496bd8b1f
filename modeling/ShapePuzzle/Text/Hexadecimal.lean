/-!
# Hexadecimal digits

Digits beyond nine are written as small letters and read in either case.
-/
namespace ShapePuzzle

def hexDigit (n : Nat) : Char :=
  if n < 10 then Char.ofNat (48 + n) else Char.ofNat (87 + n)

/-- The lowest `width` hexadecimal places of a number. -/
def hexPlaces : Nat → Nat → List Char
  | 0, _ => []
  | width + 1, n => hexPlaces width (n / 16) ++ [hexDigit (n % 16)]

def hexValue? (c : Char) : Option Nat :=
  if c.isDigit then some (c.toNat - 48)
  else if 'a' ≤ c ∧ c ≤ 'f' then some (c.toNat - 87)
  else if 'A' ≤ c ∧ c ≤ 'F' then some (c.toNat - 55)
  else none

end ShapePuzzle
