import ShapePuzzle.Proofs.CellActionEffects
import ShapePuzzle.Proofs.NeighborActionEffects

/-!
# What enforcing logs

Enforcing complains of nothing but an antecedent that it could not break.
-/
namespace ShapePuzzle

/-- The complaint that an antecedent could not be broken. -/
def Warning.OfEnforcement (w : Warning) : Prop := ∃ p, w = .antecedentKept p

namespace Implication

private theorem logs_runActions (r : Implication) (details : Details) (size : Int) (actions : List CellAction) :
    Turn.Logs Warning.OfEnforcement (r.runActions details size actions) := by
  induction actions with
  | nil => exact .pure _
  | cons a rest ih =>
    refine .bind (.of_silent (a.silent_apply details size)) fun status => ?_
    cases status with
    | applied => exact ih
    | needsBreak => exact logs_breakAntecedent _ _ details size

theorem logs_enforceCell (r : Implication) (details : Details) (size : Int) :
    Turn.Logs Warning.OfEnforcement (r.enforceCell details size) := by
  refine .bind .subject fun cell => .bind (.ofExcept _) fun b => ?_
  cases b with
  | false => exact .pure _
  | true => exact logs_runActions r details size r.actions

end Implication

namespace Requirement

theorem silent_satisfy (r : Requirement) (details : Details) (cell : Cell) :
    Turn.Silent (r.satisfy details cell) := by
  refine .bind .subject fun g => .bind (.ofExcept _) fun x => ?_
  cases x with
  | none => exact .pure _
  | some p =>
    refine .bind (.atCell p.2 (silent_satisfyNeighbor cell details g.size _)) fun y => ?_
    split
    · refine .bind .subject fun g' => ?_
      split
      · exact .ofExcept _
      · exact .pure _
    · exact .pure _

theorem logs_enforceCell (r : Requirement) (details : Details) (k : Nat) (cell : Cell) :
    Turn.Logs Warning.OfEnforcement (r.enforceCell details k cell) := by
  refine .bind .subject fun g => .bind (.ofExcept _) fun b => ?_
  cases b with
  | false => exact .pure _
  | true =>
    refine .bind (.of_silent (silent_satisfy r details cell)) fun done => ?_
    cases done with
    | true => exact .pure _
    | false => exact .bind (.atCell k (logs_breakAntecedent _ _ details g.size)) fun _ => .pure _

end Requirement

namespace Rule

theorem logs_enforceAt (details : Details) (rule : Rule) (k : Nat) :
    Turn.Logs Warning.OfEnforcement (rule.enforceAt details k) := by
  refine .bind .subject fun g => ?_
  cases rule with
  | implication r => exact .bind (.atCell k (r.logs_enforceCell details g.size)) fun _ => .pure _
  | requirement r =>
    cases g.cells[k]? with
    | none => exact .pure _
    | some cell => exact r.logs_enforceCell details k cell

theorem logs_enforceFrom (details : Details) (rule : Rule) (ks : List Nat) :
    Turn.Logs Warning.OfEnforcement (rule.enforceFrom details ks) := by
  induction ks with
  | nil => exact .pure _
  | cons k ks ih => exact .bind (logs_enforceAt details rule k) fun _ => ih

theorem logs_enforce (details : Details) (rule : Rule) :
    Turn.Logs Warning.OfEnforcement (rule.enforce details) :=
  .bind .subject fun _ => logs_enforceFrom details rule _

theorem logs_enforceAll (details : Details) (rules : List Rule) :
    Turn.Logs Warning.OfEnforcement (enforceAll details rules) := by
  induction rules with
  | nil => exact .pure _
  | cons rule rest ih => exact .bind (logs_enforce details rule) fun _ => ih

end Rule
end ShapePuzzle
