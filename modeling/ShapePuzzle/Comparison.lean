import ShapePuzzle.Value.Basic

/-!
# Comparisons of two values
-/
namespace ShapePuzzle

inductive Comparison where
  | equals | notEquals | greaterThan | lessThan | greaterOrEqual | lessOrEqual
  deriving DecidableEq, Inhabited

namespace Comparison

def name : Comparison → String
  | equals => "equals"
  | notEquals => "notEquals"
  | greaterThan => "greaterThan"
  | lessThan => "lessThan"
  | greaterOrEqual => "greaterOrEqual"
  | lessOrEqual => "lessOrEqual"

def all : List Comparison :=
  [equals, notEquals, greaterThan, lessThan, greaterOrEqual, lessOrEqual]

def ofName? (s : String) : Option Comparison :=
  all.find? fun c => c.name = s

@[simp] theorem ofName?_name (c : Comparison) : ofName? c.name = some c := by
  cases c <;> decide

/-- Any two values are equal or not; the other comparisons need values that have an order. -/
def test? : Comparison → Value → Value → Option Bool
  | equals, a, b => some (a.strictlyEquals b)
  | notEquals, a, b => some (!a.strictlyEquals b)
  | greaterThan, a, b => a.gt? b
  | lessThan, a, b => a.lt? b
  | greaterOrEqual, a, b => a.ge? b
  | lessOrEqual, a, b => a.le? b

end Comparison
end ShapePuzzle
