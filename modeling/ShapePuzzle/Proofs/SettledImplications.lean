import ShapePuzzle.Proofs.IdleTurns
import ShapePuzzle.Proofs.ImplicationEnforcement
import ShapePuzzle.Proofs.RequirementEnforcement

/-!
# Implications that have nothing to do

Where an action holds that does not draw, carrying it out is idle: what is set is there already, the cell is in the
region, and forcing a condition that holds returns at once. So a grid on which an implication is satisfied is left
as it is when the implication is enforced, action by action and cell by cell.
-/
namespace ShapePuzzle
variable {details : Details} {size : Int} {cell : Cell} {g : Grid} {luck : Luck}

/-- Text or an integer. A number that equals an integer need not be one, as it may be written with a fraction. -/
def Value.Exact (v : Value) : Prop := (∃ s, v = .text s) ∨ ∃ n, v = .int n

theorem Value.Exact.eq_of_strictlyEquals {v w : Value} (hv : v.Exact) (hw : w.Exact)
    (h : v.strictlyEquals w = true) : v = w := by
  obtain ⟨s, rfl⟩ | ⟨m, rfl⟩ := hv <;> obtain ⟨t, rfl⟩ | ⟨n, rfl⟩ := hw
  · rw [text_strictlyEquals.1 h]
  · simp [strictlyEquals] at h
  · simp [strictlyEquals] at h
  · rw [int_strictlyEquals.1 h]

namespace CellAction
variable {a : CellAction}

/-- The action does not pick another value than before, and what it sets and what it sets it over are exact. -/
def Repeatable (details : Details) (size : Int) (cell : Cell) : CellAction → Prop
  | set p v => (cell.get p).Exact ∧ ∀ w, v.resolve (cell.context details size) = .ok w → w.Exact
  | setDistinct _ _ => False
  | requireRegion _ _ | ensure _ | .break _ => True

/-- An action that holds is applied once more without any effect. -/
theorem idle_apply_of_holds (ha : a.Repeatable details size cell) (h : a.holds details size cell = .ok true) :
    Turn.Idle (a.apply details size) cell .applied := by
  cases a with
  | set p v =>
    obtain ⟨w, hw, hsame⟩ := except_bind_eq_ok.1 h
    -- an equal value would do for the postcondition, but only the same one leaves the cell as it is
    obtain rfl : cell.get p = w := ha.1.eq_of_strictlyEquals (ha.2 w hw) (except_pure_eq_ok.1 hsame)
    refine .bind_subject (.bind_ofExcept hw ?_)
    rw [Cell.set_get_self]
    exact .bind_become (.pure _)
  | setDistinct p k => exact ha.elim
  | requireRegion d s => exact .bind_subject (.bind_ofExcept h (.pure _))
  | ensure c => exact .bind (fun _ => Condition.force_of_evaluate h) (.pure _)
  | «break» c =>
    obtain ⟨b, hb, hfails⟩ := except_bind_eq_ok.1 h
    rw [except_pure_eq_ok, Bool.not_eq_true'] at hfails
    subst hfails
    have hnot : (Condition.not c).evaluate (cell.context details size) = .ok true :=
      Condition.evaluate_not_eq_ok.2 hb
    exact .bind (fun _ => Condition.force_of_evaluate hnot) (.pure _)

end CellAction

namespace Implication
variable {r : Implication}

theorem idle_runActions {actions : List CellAction} (hactions : ∀ a ∈ actions, a.Repeatable details size cell)
    (h : ∀ a ∈ actions, a.holds details size cell = .ok true) :
    Turn.Idle (r.runActions details size actions) cell () := by
  induction actions with
  | nil => exact .pure ()
  | cons a rest ih =>
    rw [List.forall_mem_cons] at hactions h
    exact (a.idle_apply_of_holds hactions.1 h.1).bind (ih hactions.2 h.2)

theorem idle_enforceCell (hactions : ∀ a ∈ r.actions, a.Repeatable details size cell)
    (h : r.holdsOn details size cell = .ok true) : Turn.Idle (r.enforceCell details size) cell () := by
  apply Turn.Idle.bind_subject
  rcases holdsOn_eq_ok_true.1 h with hfails | ⟨hmeets, hall⟩
  · exact .bind_ofExcept hfails (.pure ())
  · exact .bind_ofExcept hmeets (idle_runActions hactions hall)

theorem idle_enforceFrom {ks : List Nat} (hks : ∀ k ∈ ks, k < g.cells.length)
    (h : ∀ c ∈ g.cells, Turn.Idle (r.enforceCell details g.size) c ()) :
    Turn.Idle ((Rule.implication r).enforceFrom details ks) g () := by
  induction ks with
  | nil => exact .pure ()
  | cons k ks ih =>
    rw [List.forall_mem_cons] at hks
    have hcell := List.getElem?_eq_getElem hks.1
    have hturn := Turn.Idle.atCell hcell (h _ (List.getElem_mem hks.1))
    exact .bind (.bind_subject (hturn.bind (.pure ()))) (ih hks.2)

/-- Enforcing an implication that is satisfied does nothing, if it does not ask for other values than before and all
values it meets are text or integers. -/
theorem enforce_of_verify (hdistinct : ∀ p k, CellAction.setDistinct p k ∉ r.actions)
    (hcells : ∀ c ∈ g.cells, ∀ p, (c.get p).Exact)
    (hresolved : ∀ p v, CellAction.set p v ∈ r.actions → ∀ c ∈ g.cells, ∀ w,
      v.resolve (c.context details g.size) = .ok w → w.Exact)
    (h : (Rule.implication r).verify details g = .ok true) :
    ((Rule.implication r).enforce details) (g, luck) = .ok () (g, luck) := by
  have hcell : ∀ c ∈ g.cells, Turn.Idle (r.enforceCell details g.size) c () := by
    intro c hc
    refine idle_enforceCell (fun a ha => ?_) (allM_eq_ok_true.1 h c hc)
    cases a with
    | set p v => exact ⟨hcells c hc p, hresolved p v ha c hc⟩
    | setDistinct p k => exact absurd ha (hdistinct p k)
    | requireRegion d s => trivial
    | ensure c => trivial
    | «break» c => trivial
  have hpass : Turn.Idle ((Rule.implication r).enforce details) g () :=
    .bind_subject (idle_enforceFrom (fun _ hk => List.mem_range.1 hk) hcell)
  exact hpass luck

/-- Circles take the color that the details name and stand as far left as their number says, which is below five and
not in the last column. -/
def circlesTakeTone : Implication :=
  ⟨some (.compare .equals (.cellProperty .shape) (.constant (.text "circle"))),
    [.set .color (.placeholder "tone"), .requireRegion (.constant (.text "left")) (.cellProperty .number),
      .ensure (.compare .lessThan (.cellProperty .number) (.number (.int 5))),
      .break (.inRegion (.constant (.text "right")) (.number (.int 1)))],
    none, none⟩

/-- Green circles in the first column have all of this. -/
theorem enforce_of_verify_greenCircles :
    (Rule.implication circlesTakeTone).verify [("tone", .text "#7ed957")]
        (Requirement.pairOfRows ("circle", "#7ed957") ("square", "#ff82a9")) = .ok true ∧
      ((Rule.implication circlesTakeTone).enforce [("tone", .text "#7ed957")])
          (Requirement.pairOfRows ("circle", "#7ed957") ("square", "#ff82a9"), .start fun _ => 0) =
        .ok () (Requirement.pairOfRows ("circle", "#7ed957") ("square", "#ff82a9"), .start fun _ => 0) := by
  have hverified : (Rule.implication circlesTakeTone).verify [("tone", .text "#7ed957")]
      (Requirement.pairOfRows ("circle", "#7ed957") ("square", "#ff82a9")) = .ok true := rfl
  refine ⟨hverified, enforce_of_verify ?_ ?_ ?_ hverified⟩
  · simp [circlesTakeTone]
  · simp only [Requirement.pairOfRows, List.forall_mem_cons]
    refine ⟨?_, ?_, ?_, ?_, by simp⟩ <;> intro p <;> cases p <;> simp [Cell.get, Value.Exact]
  · intro p v hset c _ w hw
    obtain ⟨rfl, rfl⟩ : p = .color ∧ v = .placeholder "tone" := by simpa [circlesTakeTone] using hset
    cases hw
    exact .inl ⟨_, rfl⟩

end Implication
end ShapePuzzle
