import ShapePuzzle.Proofs.CellActionEffects
import ShapePuzzle.Proofs.NeighborActionEffects
import ShapePuzzle.Proofs.NeighborPlaces

/-!
# Turns that return quietly

A turn is quiet from a subject if it returns whatever the draws are, logs nothing and leaves a result and a
subject with some property. Beside the equations for turns that did return, this is for turns that must.
-/
namespace ShapePuzzle.Turn
variable {σ τ α β : Type} {s t : σ} {Q : α → σ → Prop} {R : β → σ → Prop}

def Quiet (x : Turn σ α) (s : σ) (Q : α → σ → Prop) : Prop :=
  ∀ luck : Luck, ∃ a t luck', x (s, luck) = .ok a (t, luck') ∧ luck'.warnings = luck.warnings ∧ Q a t

namespace Quiet
variable {x : Turn σ α} {f : α → Turn σ β}

theorem mono {Q' : α → σ → Prop} (h : Quiet x s Q) (hQ : ∀ a t, Q a t → Q' a t) : Quiet x s Q' := by
  intro luck
  obtain ⟨a, t, luck', hx, hlog, ha⟩ := h luck
  exact ⟨a, t, luck', hx, hlog, hQ a t ha⟩

theorem bind (hx : Quiet x s Q) (hf : ∀ a t, Q a t → Quiet (f a) t R) : Quiet (x >>= f) s R := by
  intro luck
  obtain ⟨a, t, luck₁, h₁, hlog₁, ha⟩ := hx luck
  obtain ⟨b, u, luck₂, h₂, hlog₂, hb⟩ := hf a t ha luck₁
  exact ⟨b, u, luck₂, bind_eq_ok.2 ⟨a, _, h₁, h₂⟩, hlog₂.trans hlog₁, hb⟩

/-- What holds after every run that logs nothing holds after a quiet turn. -/
theorem and_run {P : α → σ → Prop} (h : Quiet x s Q)
    (hP : ∀ {luck luck' : Luck} {a : α} {t : σ}, x (s, luck) = .ok a (t, luck') →
      luck'.warnings = luck.warnings → P a t) : Quiet x s fun a t => Q a t ∧ P a t := by
  intro luck
  obtain ⟨a, t, luck', hx, hlog, ha⟩ := h luck
  exact ⟨a, t, luck', hx, hlog, ha, hP hx hlog⟩

theorem pure {a : α} (h : Q a s) : Quiet (Pure.pure a : Turn σ α) s Q :=
  fun luck => ⟨a, s, luck, rfl, rfl, h⟩

theorem bind_subject {f : σ → Turn σ β} (h : Quiet (f s) s R) : Quiet (Turn.subject >>= f) s R := h

theorem bind_become {f : Unit → Turn σ β} (h : Quiet (f ()) t R) : Quiet (Turn.become t >>= f) s R := h

theorem become {Q : Unit → σ → Prop} (h : Q () t) : Quiet (Turn.become t) s Q :=
  fun luck => ⟨(), t, luck, rfl, rfl, h⟩

theorem ofExcept {r : Except Fault α} {a : α} (hr : r = .ok a) (h : Q a s) : Quiet (Turn.ofExcept r) s Q := by
  subst hr
  exact pure h

theorem bind_ofExcept {r : Except Fault α} {a : α} (hr : r = .ok a) (h : Quiet (f a) s R) :
    Quiet (Turn.ofExcept r >>= f) s R := by
  subst hr
  exact h

theorem draw {n : Nat} {Q : Nat → σ → Prop} (h : ∀ k, Q k s) : Quiet (Turn.draw n : Turn σ Nat) s Q :=
  fun _ => ⟨_, s, _, rfl, rfl, h _⟩

theorem aside {start : τ} {work : Turn τ α} {Q : α × τ → σ → Prop} (h : Quiet work start fun a t => Q (a, t) s) :
    Quiet (Turn.aside start work) s Q := by
  intro luck
  obtain ⟨a, t, luck', hx, hlog, ha⟩ := h luck
  exact ⟨(a, t), s, luck', aside_eq_ok.2 ⟨luck', hx, rfl⟩, hlog, ha⟩

theorem atCell {g : Grid} {k : Nat} {c : Cell} {work : Turn Cell α} {Q : Option α → Grid → Prop}
    (hc : g.cells[k]? = some c) (h : Quiet work c fun a c' => Q (some a) (g.put k c')) :
    Quiet (Turn.atCell k work) g Q := by
  intro luck
  obtain ⟨a, c', luck', hx, hlog, ha⟩ := h luck
  refine ⟨some a, g.put k c', luck', ?_, hlog, ha⟩
  simp only [Turn.atCell, bind_eq_ok, subject_eq_ok]
  refine ⟨g, (g, luck), ⟨rfl, rfl⟩, ?_⟩
  rw [hc]
  exact bind_eq_ok.2 ⟨a, _, within_eq_ok.2 ⟨c', luck', hx, rfl⟩, rfl⟩

end Quiet
end ShapePuzzle.Turn

namespace ShapePuzzle

section Draws
variable {σ α : Type} {s : σ}

theorem quiet_pick {xs : List α} (hxs : xs ≠ []) {Q : α → σ → Prop} (h : ∀ a ∈ xs, Q a s) :
    Turn.Quiet (pick xs) s Q := by
  have hquiet : Turn.Quiet (pick xs : Turn σ α) s fun _ _ => True := by
    cases xs with
    | nil => exact absurd rfl hxs
    | cons x rest => exact .bind (Q := fun _ t => t = s) (.draw fun _ => rfl) fun _ _ _ => .pure trivial
  refine (hquiet.and_run (P := fun a t => a ∈ xs ∧ t = s) fun hrun _ => pick_spec hrun).mono ?_
  rintro a t ⟨-, ha, rfl⟩
  exact h a ha

theorem quiet_pickInteger {low high : Int} (hle : low ≤ high) {Q : Int → σ → Prop}
    (h : ∀ k, low ≤ k → k ≤ high → Q k s) : Turn.Quiet (pickInteger low high) s Q := by
  unfold pickInteger
  rw [if_neg (by omega)]
  intro luck
  refine ⟨_, _, _, rfl, rfl, h _ ?_ ?_⟩
  · omega
  · have hpos : 0 < ((high - low + 1).toNat : Int) := by omega
    have hlt := Int.emod_lt_of_pos (luck.source luck.drawn) hpos
    have hge := Int.emod_nonneg (luck.source luck.drawn) (Int.ne_of_gt hpos)
    omega

theorem quiet_pickExcluding {domain excluded : List Value} (hdomain : domain ≠ []) {Q : Value → σ → Prop}
    (h : ∀ v ∈ domain, ((∃ w ∈ domain, w.isIn excluded = false) → v.isIn excluded = false) → Q v s) :
    Turn.Quiet (pickExcluding domain excluded) s Q := by
  have hquiet : Turn.Quiet (pickExcluding domain excluded : Turn σ Value) s fun _ _ => True := by
    unfold pickExcluding
    split
    · exact quiet_pick hdomain fun _ _ => trivial
    · exact quiet_pick (by simp) fun _ _ => trivial
  refine (hquiet.and_run (P := fun v t => v ∈ domain ∧ t = s ∧
    ((∃ w ∈ domain, w.isIn excluded = false) → v.isIn excluded = false)) fun hrun _ => pickExcluding_spec hrun).mono ?_
  rintro v t ⟨-, hv, rfl, hother⟩
  exact h v hv hother

private theorem quiet_shuffleFrom (k : Nat) (items : Array α) :
    Turn.Quiet (shuffleFrom k items : Turn σ (Array α)) s fun _ _ => True := by
  induction k generalizing items with
  | zero => exact .pure trivial
  | succ k ih =>
    refine .bind (Q := fun _ t => t = s) (.draw fun _ => rfl) ?_
    rintro j t rfl
    exact ih _

theorem quiet_shuffle {xs : List α} {Q : List α → σ → Prop} (h : ∀ ys, ys.Perm xs → Q ys s) :
    Turn.Quiet (shuffle xs) s Q := by
  have hquiet : Turn.Quiet (shuffle xs : Turn σ (List α)) s fun _ _ => True :=
    .bind (quiet_shuffleFrom _ _) fun _ _ _ => .pure trivial
  refine (hquiet.and_run (P := fun ys t => ys.Perm xs ∧ t = s) fun hrun _ => shuffle_spec hrun).mono ?_
  rintro ys t ⟨-, hperm, rfl⟩
  exact h ys hperm

theorem Property.domain_ne_nil (p : Property) : p.domain ≠ [] := by
  cases p <;> simp [domain, shapes, colors, palette, Fields.keys, numbers]

end Draws
end ShapePuzzle
