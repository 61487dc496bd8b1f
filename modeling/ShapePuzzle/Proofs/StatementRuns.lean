import ShapePuzzle.Proofs.Draws
import ShapePuzzle.Template.Basic

/-!
# What drawing a statement logs

A statement is drawn without touching anything else. It may log an inverted interval or tokens that stand for
nothing, and no complaint about a rule.
-/
namespace ShapePuzzle

/-- The warnings that belong to the text and the numbers of a statement. -/
def Warning.OfStatement (w : Warning) : Prop :=
  (∃ low high, w = .invertedInterval low high) ∨ ∃ keys text, w = .unresolvedTokens keys text

variable {σ : Type}

theorem Details.logs_fill {W : Warning → Prop} (hW : ∀ keys text, W (.unresolvedTokens keys text)) (d : Details)
    (template : String) : Turn.Logs W (d.fill template : Turn σ String) := by
  refine .bind (.ofExcept _) fun filled => ?_
  dsimp only
  split
  · exact .bind (.warn (hW _ _)) fun _ => .pure _
  · exact .pure _

private theorem logs_pickInteger_statement (low high : Int) :
    Turn.Logs Warning.OfStatement (pickInteger low high : Turn σ Int) :=
  logs_pickInteger low high fun _ => .inl ⟨low, high, rfl⟩

theorem Placeholder.logs_draw (p : Placeholder) (details : Details) :
    Turn.Logs Warning.OfStatement (p.draw details : Turn σ Value) := by
  have hother : ∀ (domain excluded : List String),
      Turn.Logs Warning.OfStatement (pickOther domain excluded details : Turn σ Value) :=
    fun domain excluded => .bind (.ofExcept _) fun _ => .of_silent (silent_pickExcluding _ _)
  cases p with
  | shape excluded => exact hother _ _
  | color excluded => exact hother _ _
  | number r => exact .bind (.ofExcept _) fun _ => .bind (logs_pickInteger_statement _ _) fun _ => .pure _
  | int r =>
    refine .bind (.ofExcept _) fun b => ?_
    dsimp only
    split
    · exact .bind (logs_pickInteger_statement _ _) fun _ => .pure _
    · exact .bind (logs_pickInteger_statement _ _) fun _ => .pure _
  | choice options => exact .of_silent (silent_pick _)
  | comparison options => exact .bind (.of_silent (silent_pick _)) fun _ => .pure _
  | parity => exact .bind (.of_silent (silent_pick _)) fun _ => .pure _
  | factor options => exact .bind (.of_silent (silent_pick _)) fun _ => .pure _

theorem ComputedField.logs_compute {W : Warning → Prop} (hW : ∀ keys text, W (.unresolvedTokens keys text))
    (f : ComputedField) (details : Details) : Turn.Logs W (f.compute details : Turn σ Value) := by
  cases f with
  | stringTemplate key template => exact .bind (details.logs_fill hW template) fun _ => .pure _
  | _ => exact .ofExcept _

namespace Template

theorem logs_drawPlaceholders (details : Details) (ps : Fields Placeholder) :
    Turn.Logs Warning.OfStatement (drawPlaceholders details ps : Turn σ Details) := by
  induction ps generalizing details with
  | nil => exact .pure _
  | cons p ps ih => exact .bind (p.2.logs_draw details) fun _ => ih _

theorem logs_computeFields {W : Warning → Prop} (hW : ∀ keys text, W (.unresolvedTokens keys text))
    (details : Details) (fs : List ComputedField) : Turn.Logs W (computeFields details fs : Turn σ Details) := by
  induction fs generalizing details with
  | nil => exact .pure _
  | cons f fs ih => exact .bind (f.logs_compute hW details) fun _ => ih _

theorem logs_state (t : Template) : Turn.Logs Warning.OfStatement (t.state : Turn σ Statement) := by
  have hW : ∀ keys text, Warning.OfStatement (.unresolvedTokens keys text) := fun _ _ => .inr ⟨_, _, rfl⟩
  have hdetails : Turn.Logs Warning.OfStatement (t.drawDetails : Turn σ Details) :=
    .bind (logs_drawPlaceholders [] t.placeholders) fun _ => .bind (logs_computeFields hW _ _) fun _ =>
      .bind (.ofExcept _) fun _ => .pure _
  refine .bind hdetails fun details => .bind (details.logs_fill hW _) fun text =>
    .bind (details.logs_fill hW _) fun formal => ?_
  split
  · exact .bind (.pure _) fun _ => .pure _
  · exact .bind (details.logs_fill hW _) fun _ => .pure _

end Template
end ShapePuzzle
