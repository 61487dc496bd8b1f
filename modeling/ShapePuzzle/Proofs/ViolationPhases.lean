import ShapePuzzle.Rule.Violation

/-!
# The two parts of a violation

First a cell that meets the rule is tried: it is refuted, or its neighbor is spoilt if there is a way declared to do
so. Where that does not make the rule fail, the antecedent is forced onto one cell after the other.
-/
namespace ShapePuzzle

namespace Implication

/-- Makes the implication fail on a cell that meets the antecedent and it, if that can be done. -/
def violateFound (r : Implication) (details : Details) (g : Grid) : Turn Grid Bool := do
  let found ← Turn.ofExcept (r.witnesses details g.size g.numbered)
  r.violateWitness details g.size (← shuffle found)

/-- Forces the antecedent onto one cell after the other until the implication fails, or says that it was kept. -/
def violateElsewhere (r : Implication) (details : Details) (g : Grid) : Turn Grid Unit := do
  let (outside, inside) ← Turn.ofExcept (r.byRegion details g.size (← shuffle g.numbered))
  if ← r.violateForced details g.size (outside ++ inside) then return ()
  Turn.warn .implicationKept

theorem violate_eq (r : Implication) (details : Details) :
    r.violate details = (do
      let g ← Turn.subject
      if ← r.violateFound details g then return ()
      r.violateElsewhere details g) := by
  simp only [violate, violateFound, bind_assoc]
  rfl

end Implication

namespace Requirement

/-- Spoils the neighbor of a witness, if that can be tried; says whether the requirement fails on the witness. -/
def violateWitness (r : Requirement) (details : Details) : Turn Grid Bool := do
  let g ← Turn.subject
  let found ← Turn.ofExcept (r.witnesses details g g.numbered)
  match r.neighbor.violation with
  | none => return false
  | some spoil => if found.isEmpty then return false else r.spoilWitness details g.size spoil found

/-- The cells that may come to fail the requirement: all of them, or those without a neighbor if there is no way
to spoil one. -/
def candidates (r : Requirement) (details : Details) (g : Grid) (cells : List (Cell × Nat)) :
    Except Fault (List (Cell × Nat)) :=
  if r.neighbor.violation.isSome then .ok cells else r.alone details g cells

/-- Forces the antecedent onto one cell after the other until the requirement fails, or says that it was kept. -/
def violateElsewhere (r : Requirement) (details : Details) : Turn Grid Unit := do
  let g ← Turn.subject
  let cells ← Turn.ofExcept (r.candidates details g (← shuffle g.numbered))
  if ← r.violateForced details cells then return ()
  Turn.warn .requirementKept

theorem violate_eq (r : Requirement) (details : Details) :
    r.violate details = (do
      if ← r.violateWitness details then return ()
      r.violateElsewhere details) := by
  have helsewhere : (do
      let g ← Turn.subject
      let cells ← shuffle g.numbered
      let cells ← if r.neighbor.violation.isSome then pure cells else Turn.ofExcept (r.alone details g cells)
      if ← r.violateForced details cells then return ()
      Turn.warn .requirementKept) = r.violateElsewhere details := by
    unfold violateElsewhere candidates
    cases r.neighbor.violation <;> rfl
  rw [← helsewhere]
  simp only [violate, violateWitness, bind_assoc]
  refine bind_congr fun g => bind_congr fun found => ?_
  cases hv : r.neighbor.violation with
  | none => rfl
  | some spoil =>
    cases found with
    | nil => rfl
    | cons w ws => rfl

end Requirement
end ShapePuzzle
