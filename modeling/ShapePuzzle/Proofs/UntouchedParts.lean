import ShapePuzzle.Proofs.TurnOutcomes
import ShapePuzzle.Round

/-!
# Turns that leave a part of their subject alone

Building a round draws and logs, and works on grids aside. Whatever it is built beside stays as it was, also when it
cannot be built.
-/
namespace ShapePuzzle
variable {σ τ ρ α β : Type} {part : σ → ρ}

namespace Turn
variable {x : Turn σ α}

/-- Whether it returns or stops with a fault, the turn leaves a part of its subject as it was. -/
structure Keeps (part : σ → ρ) (x : Turn σ α) : Prop where
  ok : ∀ ⦃st a st'⦄, x st = .ok a st' → part st'.1 = part st.1
  error : ∀ ⦃st e st'⦄, x st = .error e st' → part st'.1 = part st.1

namespace Keeps

theorem bind {f : α → Turn σ β} (hx : Keeps part x) (hf : ∀ a, Keeps part (f a)) : Keeps part (x >>= f) := by
  constructor
  · intro st b st' h
    obtain ⟨a, st₁, h₁, h₂⟩ := bind_eq_ok.1 h
    exact ((hf a).ok h₂).trans (hx.ok h₁)
  · intro st e st' h
    simp only [Bind.bind, EStateM.bind] at h
    cases hrun : x st with
    | ok a st₁ =>
      rw [hrun] at h
      exact ((hf a).error h).trans (hx.ok hrun)
    | error e' st₁ =>
      rw [hrun] at h
      cases h
      exact hx.error hrun

/-- A turn that does not touch its subject at all keeps every part of it. -/
theorem of_subject_eq (h : ∀ st, Meets x st (fun _ st' => st'.1 = st.1) fun _ st' => st'.1 = st.1) : Keeps part x :=
  ⟨fun st _ _ hx => congrArg part ((h st).ok hx), fun st _ _ hx => congrArg part ((h st).error hx)⟩

theorem pure (a : α) : Keeps part (Pure.pure a : Turn σ α) := of_subject_eq fun _ => .pure rfl

theorem throw (e : Fault) : Keeps part (MonadExcept.throw e : Turn σ α) := of_subject_eq fun _ => .throw rfl

theorem ofExcept (r : Except Fault α) : Keeps part (Turn.ofExcept r : Turn σ α) :=
  of_subject_eq fun _ => .ofExcept (fun _ _ => rfl) fun _ _ => rfl

theorem subject : Keeps part (Turn.subject : Turn σ σ) := of_subject_eq fun _ => rfl

theorem warn (w : Warning) : Keeps part (Turn.warn w : Turn σ Unit) := of_subject_eq fun _ => .warn rfl

theorem draw (n : Nat) : Keeps part (Turn.draw n : Turn σ Nat) := of_subject_eq fun _ => rfl

theorem aside (start : τ) (work : Turn τ α) : Keeps part (Turn.aside start work : Turn σ (α × τ)) := by
  refine of_subject_eq fun st => ?_
  unfold Meets
  simp only [Turn.aside]
  cases work (start, st.2) with
  | ok a r => rfl
  | error e r => rfl

/-- Work on one part leaves another as it was. -/
theorem within {inner : σ → τ} {put : τ → σ → σ} (hput : ∀ t s, part (put t s) = part s) (work : Turn τ α) :
    Keeps part (Turn.within inner put work) := by
  have hmeets : ∀ st : σ × Luck, Meets (Turn.within inner put work) st (fun _ st' => part st'.1 = part st.1)
      fun _ st' => part st'.1 = part st.1 :=
    fun st => .within (.of_run (fun _ _ _ => hput _ _) fun _ _ _ => hput _ _)
  exact ⟨fun st _ _ h => (hmeets st).ok h, fun st _ _ h => (hmeets st).error h⟩

end Keeps
end Turn

theorem keeps_pick (xs : List α) : Turn.Keeps part (pick xs) := by
  cases xs with
  | nil => exact .throw _
  | cons x rest => exact .bind (.draw _) fun _ => .pure _

theorem keeps_pickInteger (low high : Int) : Turn.Keeps part (pickInteger low high) := by
  unfold pickInteger
  split
  · exact .bind (.warn _) fun _ => .pure _
  · exact .bind (.draw _) fun _ => .pure _

theorem keeps_shuffleFrom (k : Nat) (items : Array α) : Turn.Keeps part (shuffleFrom k items) := by
  induction k generalizing items with
  | zero => exact .pure _
  | succ k ih => exact .bind (.draw _) fun _ => ih _

theorem keeps_shuffle (xs : List α) : Turn.Keeps part (shuffle xs) :=
  .bind (keeps_shuffleFrom _ _) fun _ => .pure _

theorem Details.keeps_fill (d : Details) (text : String) : Turn.Keeps part (d.fill text) := by
  refine .bind (.ofExcept _) fun filled => ?_
  dsimp only
  split
  · exact .bind (.warn _) fun _ => .pure _
  · exact .pure _

theorem keeps_pickExcluding (domain excluded : List Value) : Turn.Keeps part (pickExcluding domain excluded) := by
  unfold pickExcluding
  split
  · exact keeps_pick _
  · exact keeps_pick _

theorem Placeholder.keeps_draw (p : Placeholder) (details : Details) : Turn.Keeps part (p.draw details) := by
  cases p with
  | shape excluded => exact .bind (.ofExcept _) fun _ => keeps_pickExcluding _ _
  | color excluded => exact .bind (.ofExcept _) fun _ => keeps_pickExcluding _ _
  | number r => exact .bind (.ofExcept _) fun _ => .bind (keeps_pickInteger _ _) fun _ => .pure _
  | int r =>
    refine .bind (.ofExcept _) fun b => ?_
    dsimp only
    split
    · exact .bind (keeps_pickInteger _ _) fun _ => .pure _
    · exact .bind (keeps_pickInteger _ _) fun _ => .pure _
  | choice options => exact keeps_pick _
  | comparison options => exact .bind (keeps_pick _) fun _ => .pure _
  | parity => exact .bind (keeps_pick _) fun _ => .pure _
  | factor options => exact .bind (keeps_pick _) fun _ => .pure _

theorem ComputedField.keeps_compute (f : ComputedField) (details : Details) : Turn.Keeps part (f.compute details) := by
  cases f with
  | stringTemplate key template => exact .bind (details.keeps_fill template) fun _ => .pure _
  | _ => exact .ofExcept _

namespace Grid

theorem keeps_randomCell (position : Position) : Turn.Keeps part (randomCell position) :=
  .bind (keeps_pick _) fun _ => .bind (keeps_pick _) fun _ => .bind (keeps_pick _) fun _ => .pure _

theorem keeps_randomCells (size : Int) (ks : List Nat) : Turn.Keeps part (randomCells size ks) := by
  induction ks with
  | nil => exact .pure _
  | cons k ks ih => exact .bind (keeps_randomCell _) fun _ => .bind ih fun _ => .pure _

theorem keeps_random (size : Int) : Turn.Keeps part (random size) :=
  .bind (keeps_randomCells _ _) fun _ => .ofExcept _

end Grid

namespace Template

theorem keeps_drawPlaceholders (details : Details) (ps : Fields Placeholder) :
    Turn.Keeps part (drawPlaceholders details ps) := by
  induction ps generalizing details with
  | nil => exact .pure _
  | cons p ps ih => exact .bind (p.2.keeps_draw details) fun _ => ih _

theorem keeps_computeFields (details : Details) (fs : List ComputedField) :
    Turn.Keeps part (computeFields details fs) := by
  induction fs generalizing details with
  | nil => exact .pure _
  | cons f fs ih => exact .bind (f.keeps_compute details) fun _ => ih _

theorem keeps_drawDetails (t : Template) : Turn.Keeps part t.drawDetails :=
  .bind (keeps_drawPlaceholders _ _) fun _ => .bind (keeps_computeFields _ _) fun _ => .bind (.ofExcept _) fun _ =>
    .pure _

theorem keeps_state (t : Template) : Turn.Keeps part t.state := by
  refine .bind t.keeps_drawDetails fun details => .bind (details.keeps_fill _) fun text =>
    .bind (details.keeps_fill _) fun formal => ?_
  split
  · exact .bind (.pure _) fun _ => .pure _
  · exact .bind (details.keeps_fill _) fun _ => .pure _

theorem keeps_buildGrid (t : Template) (size : Int) (satisfies : Bool) (details : Details) :
    Turn.Keeps part (t.buildGrid size satisfies details) :=
  .bind (Grid.keeps_random size) fun _ => .bind (.aside _ _) fun _ => .pure _

end Template

theorem Bank.keeps_choose (b : Bank) (tier : String) : Turn.Keeps part (b.choose tier) := by
  have hnonempty : ∀ (name : String) (templates : List Template), Turn.Keeps part (do
      if templates.isEmpty then throw (.emptyTier name)
      return (name, templates)) := by
    intro name templates
    dsimp only
    split
    · exact .bind (.throw _) fun _ => .pure _
    · exact .pure _
  unfold choose
  split
  · exact hnonempty _ _
  · exact .bind (.warn _) fun _ => .bind (.ofExcept _) fun _ => hnonempty _ _

namespace Round

namespace Search

theorem keeps_pickTemplate (s : Search) (bank : List (Template × Nat)) : Turn.Keeps part (s.pickTemplate bank) := by
  unfold pickTemplate
  split
  · exact keeps_pick _
  · exact keeps_pick _

theorem keeps_attempt (s : Search) (bank : List (Template × Nat)) (g : Grid) :
    Turn.Keeps part (s.attempt bank g) := by
  refine .bind (s.keeps_pickTemplate bank) fun t => .bind t.1.keeps_state fun d => ?_
  split
  · exact .pure _
  · refine .bind (.ofExcept _) fun b => ?_
    cases b with
    | true => exact .pure _
    | false => exact .pure _

theorem keeps_run (bank : List (Template × Nat)) (g : Grid) (wanted : Int) (n : Nat) (s : Search) :
    Turn.Keeps part (run bank g wanted n s) := by
  induction n generalizing s with
  | zero => exact .pure _
  | succ n ih =>
    unfold run
    split
    · exact .pure _
    · exact .bind (s.keeps_attempt bank g) fun _ => ih _

end Search

theorem keeps_distractors (bank : List Template) (correct : Template × Nat) (statement : Statement) (g : Grid)
    (wanted attempts : Int) : Turn.Keeps part (distractors bank correct statement g wanted attempts) := by
  refine .bind (Search.keeps_run _ _ _ _ _) fun found => ?_
  split
  · exact .throw _
  · exact .pure _

theorem keeps_build (bank : List Template) (tier : String) (wanted attempts : Int) :
    Turn.Keeps part (build bank tier wanted attempts) :=
  .bind (keeps_pick _) fun t => .bind t.1.keeps_state fun _ => .bind (t.1.keeps_buildGrid _ _ _) fun _ =>
    .bind (keeps_distractors _ _ _ _ _ _) fun _ => .bind (keeps_shuffle _) fun _ => .pure _

theorem keeps_generate (b : Bank) (tier : String) (wanted attempts : Int) :
    Turn.Keeps part (generate b tier wanted attempts) :=
  .bind (b.keeps_choose tier) fun _ => keeps_build _ _ _ _

end Round
end ShapePuzzle
