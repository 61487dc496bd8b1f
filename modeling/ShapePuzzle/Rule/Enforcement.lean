import ShapePuzzle.Rule.Basic

/-!
# Enforcing rules

One pass over the cells, row by row. Where the consequence cannot be had, the antecedent is broken instead.
-/
namespace ShapePuzzle

namespace Turn

/-- Works on one cell of the grid. -/
def atCell {α : Type} (k : Nat) (work : Turn Cell α) : Turn Grid (Option α) := do
  match (← Turn.subject).cells[k]? with
  | none => return none
  | some cell => return some (← Turn.within (fun _ => cell) (fun c g => g.put k c) work)

end Turn

/-- Makes the antecedent false on the cell: by the action given for it, then by force. -/
def breakAntecedent (antecedent : Option Condition) (action : Option CellAction) (details : Details)
    (size : Int) : Turn Cell Unit := do
  if let some a := action then
    let _ ← a.apply details size
  let cell ← Turn.subject
  if ← Turn.ofExcept (Condition.evaluate? (cell.context details size) antecedent) then
    if let some c := antecedent then
      if ← (Condition.not c).force details size then return ()
    Turn.warn (.antecedentKept (← Turn.subject).position)

namespace Implication

/-- Carries out the actions in turn until one needs the antecedent broken. -/
def runActions (r : Implication) (details : Details) (size : Int) : List CellAction → Turn Cell Unit
  | [] => return ()
  | a :: rest => do
    match ← a.apply details size with
    | .applied => r.runActions details size rest
    | .needsBreak => ShapePuzzle.breakAntecedent r.antecedent r.breakAntecedent details size

def enforceCell (r : Implication) (details : Details) (size : Int) : Turn Cell Unit := do
  let cell ← Turn.subject
  if ← Turn.ofExcept (Condition.evaluate? (cell.context details size) r.antecedent) then
    r.runActions details size r.actions

end Implication

namespace Requirement

/-- Carries out all actions on the neighbor; says whether each was applied. -/
def satisfyNeighbor (cell : Cell) (details : Details) (size : Int) : List NeighborAction → Turn Cell Bool
  | [] => return true
  | a :: rest => do
    let status ← a.apply cell details size
    let others ← satisfyNeighbor cell details size rest
    return status = .applied && others

/-- Works on the neighbor of a cell; says whether there is one and it meets the conditions then. -/
def satisfy (r : Requirement) (details : Details) (cell : Cell) : Turn Grid Bool := do
  let g ← Turn.subject
  match ← Turn.ofExcept (r.neighbor? details g cell) with
  | none => return false
  | some (_, j) =>
    match ← Turn.atCell j (satisfyNeighbor cell details g.size r.neighbor.satisfy) with
    | some true =>
      match (← Turn.subject).cells[j]? with
      | some neighbor => Turn.ofExcept (r.conditionsHold details g.size cell neighbor)
      | none => return false
    | _ => return false

def enforceCell (r : Requirement) (details : Details) (k : Nat) (cell : Cell) : Turn Grid Unit := do
  let g ← Turn.subject
  if ← Turn.ofExcept (Condition.evaluate? (cell.context details g.size) r.antecedent) then
    if !(← r.satisfy details cell) then
      let _ ← Turn.atCell k (ShapePuzzle.breakAntecedent r.antecedent r.breakAntecedent details g.size)

end Requirement

namespace Rule

def enforceAt (details : Details) (rule : Rule) (k : Nat) : Turn Grid Unit := do
  let g ← Turn.subject
  match rule, g.cells[k]? with
  | implication r, _ => let _ ← Turn.atCell k (r.enforceCell details g.size)
  | requirement r, some cell => r.enforceCell details k cell
  | requirement _, none => return ()

def enforceFrom (details : Details) (rule : Rule) : List Nat → Turn Grid Unit
  | [] => return ()
  | k :: rest => do
    rule.enforceAt details k
    rule.enforceFrom details rest

def enforce (details : Details) (rule : Rule) : Turn Grid Unit := do
  rule.enforceFrom details (List.range (← Turn.subject).cells.length)

/-- Rules in the order given; a later one may undo an earlier. -/
def enforceAll (details : Details) : List Rule → Turn Grid Unit
  | [] => return ()
  | rule :: rest => do
    rule.enforce details
    enforceAll details rest

end Rule
end ShapePuzzle
