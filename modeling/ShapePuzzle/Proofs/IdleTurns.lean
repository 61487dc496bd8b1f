import ShapePuzzle.Proofs.QuietTurns

/-!
# Turns that do nothing

A turn is idle on a subject if it returns a result without a draw or a warning and leaves the subject as it is.
-/
namespace ShapePuzzle.Turn
variable {σ τ α β : Type} {s : σ} {a : α} {b : β}

def Idle (x : Turn σ α) (s : σ) (a : α) : Prop := ∀ luck : Luck, x (s, luck) = .ok a (s, luck)

namespace Idle
variable {x : Turn σ α} {f : α → Turn σ β}

theorem pure (a : α) : Idle (Pure.pure a : Turn σ α) s a := fun _ => rfl

theorem ofExcept {r : Except Fault α} (h : r = .ok a) : Idle (Turn.ofExcept r) s a := by
  subst h
  exact pure a

theorem bind (hx : Idle x s a) (hf : Idle (f a) s b) : Idle (x >>= f) s b :=
  fun luck => bind_eq_ok.2 ⟨a, _, hx luck, hf luck⟩

theorem bind_subject {f : σ → Turn σ β} (h : Idle (f s) s b) : Idle (Turn.subject >>= f) s b := h

theorem bind_ofExcept {r : Except Fault α} (hr : r = .ok a) (h : Idle (f a) s b) :
    Idle (Turn.ofExcept r >>= f) s b :=
  bind (ofExcept hr) h

/-- Becoming what it is changes nothing. -/
theorem bind_become {f : Unit → Turn σ β} (h : Idle (f ()) s b) : Idle (Turn.become s >>= f) s b := h

/-- An idle turn of a cell of the grid is one of the grid. -/
theorem atCell {g : Grid} {k : Nat} {c : Cell} {work : Turn Cell α} (hc : g.cells[k]? = some c)
    (h : Idle work c a) : Idle (Turn.atCell k work) g (some a) := by
  refine bind_subject ?_
  rw [hc]
  refine bind (fun luck => within_eq_ok.2 ⟨c, luck, h luck, ?_⟩) (pure _)
  rw [Grid.put_self hc]

/-- An idle turn does not show in what follows it. -/
theorem bind_quiet {R : β → σ → Prop} (hx : Idle x s a) (hf : Quiet (f a) s R) : Quiet (x >>= f) s R := by
  refine .bind (Q := fun a' t => a' = a ∧ t = s) (fun luck => ⟨a, s, luck, hx luck, rfl, rfl, rfl⟩) ?_
  rintro _ _ ⟨rfl, rfl⟩
  exact hf

end Idle
end ShapePuzzle.Turn
