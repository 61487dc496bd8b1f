import ShapePuzzle.Rule.Action

/-!
# Rules

An implication asks of every cell that meets its antecedent that its actions hold there. A requirement asks of
every such cell that it has a neighbor in some direction and that conditions hold on the two.
-/
namespace ShapePuzzle

structure Implication where
  antecedent : Option Condition
  actions : List CellAction
  breakAntecedent : Option CellAction
  violation : Option CellAction
  deriving Inhabited

structure NeighborSpec where
  direction : Ref
  conditions : List Condition
  satisfy : List NeighborAction
  violation : Option NeighborAction
  deriving Inhabited

structure Requirement where
  antecedent : Option Condition
  neighbor : NeighborSpec
  breakAntecedent : Option CellAction
  deriving Inhabited

inductive Rule where
  | implication (r : Implication)
  | requirement (r : Requirement)
  deriving Inhabited

def keysOf? : Option CellAction → List String
  | none => []
  | some a => a.keys

def antecedentKeys : Option Condition → List String
  | none => []
  | some c => c.keys

namespace NeighborSpec

def keys (s : NeighborSpec) : List String :=
  s.direction.keys ++ s.conditions.flatMap Condition.keys ++ s.satisfy.flatMap NeighborAction.keys ++
    (s.violation.map NeighborAction.keys).getD []

end NeighborSpec

/-- When a rule asks something of a cell. -/
def Rule.antecedent : Rule → Option Condition
  | implication r => r.antecedent
  | requirement r => r.antecedent

/-- What a rule has declared for making its antecedent fail. -/
def Rule.breakAntecedent : Rule → Option CellAction
  | implication r => r.breakAntecedent
  | requirement r => r.breakAntecedent

/-- The placeholders that a rule reads, in the order in which they stand. -/
def Rule.keys : Rule → List String
  | implication r =>
    antecedentKeys r.antecedent ++ r.actions.flatMap CellAction.keys ++ keysOf? r.breakAntecedent ++
      keysOf? r.violation
  | requirement r => antecedentKeys r.antecedent ++ r.neighbor.keys ++ keysOf? r.breakAntecedent

namespace Implication

/-- Whether the antecedent or every action decides the cell in favor of the rule. -/
def holdsOn (r : Implication) (details : Details) (size : Int) (cell : Cell) : Except Fault Bool := do
  if ← Condition.evaluate? (cell.context details size) r.antecedent then
    r.actions.allM (CellAction.holds details size cell)
  else return true

end Implication

namespace Requirement

/-- Where the neighbor in the direction of the rule stands. -/
def neighborIndex? (r : Requirement) (details : Details) (g : Grid) (cell : Cell) :
    Except Fault (Option Nat) := do
  let direction ← r.neighbor.direction.resolve (cell.context details g.size)
  return g.neighborIndex? cell.position (← Direction.ofValue direction)

def conditionsHold (r : Requirement) (details : Details) (size : Int) (cell neighbor : Cell) :
    Except Fault Bool :=
  r.neighbor.conditions.allM (Condition.evaluate (cell.contextWith neighbor details size))

/-- The neighbor with its place, if the cell has one. -/
def neighbor? (r : Requirement) (details : Details) (g : Grid) (cell : Cell) :
    Except Fault (Option (Cell × Nat)) := do
  match ← r.neighborIndex? details g cell with
  | none => return none
  | some k => return g.cells[k]?.map fun neighbor => (neighbor, k)

def holdsOn (r : Requirement) (details : Details) (g : Grid) (cell : Cell) : Except Fault Bool := do
  if ← Condition.evaluate? (cell.context details g.size) r.antecedent then
    match ← r.neighbor? details g cell with
    | none => return false
    | some (neighbor, _) => r.conditionsHold details g.size cell neighbor
  else return true

end Requirement

namespace Rule

def verify (details : Details) (g : Grid) : Rule → Except Fault Bool
  | implication r => g.cells.allM (r.holdsOn details g.size)
  | requirement r => g.cells.allM (r.holdsOn details g)

def verifyAll (details : Details) (g : Grid) (rules : List Rule) : Except Fault Bool :=
  rules.allM (verify details g)

end Rule
end ShapePuzzle
