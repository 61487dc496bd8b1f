import ShapePuzzle.Rule.Enforcement

/-!
# Violating rules

A violation leaves one counterexample on the grid: on a cell that satisfies the rule if there is one, else on a
cell that is first made to meet the antecedent. Attempts are made aside, and only what succeeds is kept.
-/
namespace ShapePuzzle

/-- Keeps the properties found on another cell; the position stays. -/
def Cell.adopt (c found : Cell) : Cell := { found with position := c.position }

namespace Turn

def commit (k : Nat) (found : Cell) : Turn Grid Unit :=
  modify fun (g, luck) =>
    (match g.cells[k]? with
    | some c => g.put k (c.adopt found)
    | none => g, luck)

end Turn

/-- The cell with the antecedent forced onto it, if it can be. -/
def forcedAside (antecedent : Option Condition) (details : Details) (size : Int) (cell : Cell) :
    Turn Grid (Option Cell) := do
  match ← Turn.aside cell (Condition.force? details size antecedent) with
  | (true, forced) => return some forced
  | (false, _) => return none

namespace Implication

/-- Whether the antecedent and every action hold. -/
def isWitness (r : Implication) (details : Details) (size : Int) (cell : Cell) : Except Fault Bool := do
  if ← Condition.evaluate? (cell.context details size) r.antecedent then
    r.actions.allM (CellAction.holds details size cell)
  else return false

def refuteSome (r : Implication) (details : Details) (size : Int) (cell : Cell) :
    List CellAction → Turn Grid (Option Cell)
  | [] => return none
  | a :: rest => do
    match ← Turn.aside cell (a.refute details size) with
    | (true, found) =>
      if ← Turn.ofExcept (r.holdsOn details size found) then r.refuteSome details size cell rest
      else return some found
    | (false, _) => r.refuteSome details size cell rest

/-- The cell changed so that the implication fails: by the violation given for it, then by refuting some
action. -/
def counterexample (r : Implication) (details : Details) (size : Int) (cell : Cell) :
    Turn Grid (Option Cell) := do
  if let some v := r.violation then
    let (_, found) ← Turn.aside cell (v.apply details size)
    if !(← Turn.ofExcept (r.holdsOn details size found)) then return some found
  r.refuteSome details size cell (← shuffle r.actions)

def violateWitness (r : Implication) (details : Details) (size : Int) :
    List (Cell × Nat) → Turn Grid Bool
  | [] => return false
  | (cell, k) :: rest => do
    match ← r.counterexample details size cell with
    | some found =>
      Turn.commit k found
      return true
    | none => r.violateWitness details size rest

/-- Forcing the antecedent may already leave the consequence unmet. -/
def violateForced (r : Implication) (details : Details) (size : Int) :
    List (Cell × Nat) → Turn Grid Bool
  | [] => return false
  | (cell, k) :: rest => do
    match ← forcedAside r.antecedent details size cell with
    | none => r.violateForced details size rest
    | some forced =>
      let found ← if ← Turn.ofExcept (r.holdsOn details size forced) then
          r.counterexample details size forced
        else pure (some forced)
      match found with
      | some found =>
        Turn.commit k found
        return true
      | none => r.violateForced details size rest

def witnesses (r : Implication) (details : Details) (size : Int) :
    List (Cell × Nat) → Except Fault (List (Cell × Nat))
  | [] => .ok []
  | c :: cs => do
    let witness ← r.isWitness details size c.1
    let rest ← r.witnesses details size cs
    return if witness then c :: rest else rest

def regionsHold (r : Implication) (details : Details) (size : Int) (cell : Cell) : Except Fault Bool :=
  (r.actions.filter CellAction.isRegion).allM (CellAction.holds details size cell)

/-- Splits the cells into those outside a required region and those inside all of them. -/
def byRegion (r : Implication) (details : Details) (size : Int) :
    List (Cell × Nat) → Except Fault (List (Cell × Nat) × List (Cell × Nat))
  | [] => .ok ([], [])
  | c :: cs => do
    let inside ← r.regionsHold details size c.1
    let (outs, ins) ← r.byRegion details size cs
    return if inside then (outs, c :: ins) else (c :: outs, ins)

def violate (r : Implication) (details : Details) : Turn Grid Unit := do
  let g ← Turn.subject
  let found ← Turn.ofExcept (r.witnesses details g.size g.numbered)
  if ← r.violateWitness details g.size (← shuffle found) then return ()
  let (outside, inside) ← Turn.ofExcept (r.byRegion details g.size (← shuffle g.numbered))
  if ← r.violateForced details g.size (outside ++ inside) then return ()
  Turn.warn .implicationKept

end Implication

namespace Requirement

/-- The cells that meet the antecedent and whose neighbor meets the conditions, with that neighbor. -/
def witnesses (r : Requirement) (details : Details) (g : Grid) :
    List (Cell × Nat) → Except Fault (List ((Cell × Nat) × Nat))
  | [] => .ok []
  | (cell, k) :: cs => do
    let found ← if ← Condition.evaluate? (cell.context details g.size) r.antecedent then
        match ← r.neighbor? details g cell with
        | none => pure none
        | some (neighbor, j) =>
          if ← r.conditionsHold details g.size cell neighbor then pure (some j) else pure none
      else pure none
    let rest ← r.witnesses details g cs
    return match found with
      | some j => ((cell, k), j) :: rest
      | none => rest

/-- Spoils the neighbor of some witness; says whether the requirement fails on it. -/
def spoilWitness (r : Requirement) (details : Details) (size : Int) (spoil : NeighborAction)
    (found : List ((Cell × Nat) × Nat)) : Turn Grid Bool := do
  let ((cell, _), j) ← pick found
  let _ ← Turn.atCell j (spoil.apply cell details size)
  return !(← Turn.ofExcept (r.holdsOn details (← Turn.subject) cell))

/-- The cells without a neighbor in the direction of the rule. -/
def alone (r : Requirement) (details : Details) (g : Grid) :
    List (Cell × Nat) → Except Fault (List (Cell × Nat))
  | [] => .ok []
  | c :: cs => do
    let neighbor ← r.neighborIndex? details g c.1
    let rest ← r.alone details g cs
    return if neighbor.isNone then c :: rest else rest

def spoilNeighbor (r : Requirement) (details : Details) (size : Int) (cell : Cell) : Turn Cell Unit := do
  let _ ← satisfyNeighbor cell details size r.neighbor.satisfy
  match r.neighbor.violation with
  | none => throw .noNeighborAction
  | some spoil => let _ ← spoil.apply cell details size

def violateForced (r : Requirement) (details : Details) : List (Cell × Nat) → Turn Grid Bool
  | [] => return false
  | (cell, k) :: rest => do
    let g ← Turn.subject
    match ← forcedAside r.antecedent details g.size cell with
    | none => r.violateForced details rest
    | some forced =>
      match ← Turn.ofExcept (r.neighbor? details g forced) with
      | none =>
        Turn.commit k forced
        return true
      | some (neighbor, j) =>
        let (_, spoilt) ← Turn.aside neighbor (r.spoilNeighbor details g.size forced)
        if ← Turn.ofExcept (r.conditionsHold details g.size forced spoilt) then
          r.violateForced details rest
        else
          Turn.commit k forced
          Turn.commit j spoilt
          return true

def violate (r : Requirement) (details : Details) : Turn Grid Unit := do
  let g ← Turn.subject
  let found ← Turn.ofExcept (r.witnesses details g g.numbered)
  if let some spoil := r.neighbor.violation then
    if !found.isEmpty then
      if ← r.spoilWitness details g.size spoil found then return ()
  let g ← Turn.subject
  let candidates ← shuffle g.numbered
  let candidates ← if r.neighbor.violation.isSome then pure candidates
    else Turn.ofExcept (r.alone details g candidates)
  if ← r.violateForced details candidates then return ()
  Turn.warn .requirementKept

end Requirement

def Rule.violate (details : Details) : Rule → Turn Grid Unit
  | .implication r => r.violate details
  | .requirement r => r.violate details

end ShapePuzzle
