import ShapePuzzle.Proofs.TurnOutcomes

/-!
# Invariants of turns

An invariant of the subject is kept by a turn if it holds of the subject that the turn leaves, whether the turn
returned or stopped with a fault half way. What a turn returns may be known to satisfy something too, so that
later parts of the turn can rely on it.
-/
namespace ShapePuzzle

namespace Turn
variable {σ τ α β : Type} {I : σ → Prop} {J : τ → Prop} {Q : α → Prop} {R : β → Prop} {x : Turn σ α}

/-- From a subject within the invariant the turn leaves one within it, on either outcome, and what it returns
satisfies the condition. -/
def Preserves (I : σ → Prop) (x : Turn σ α) (Q : α → Prop) : Prop :=
  ∀ ⦃st⦄, I st.1 → Meets x st (fun a st' => I st'.1 ∧ Q a) fun _ st' => I st'.1

namespace Preserves

theorem bind {f : α → Turn σ β} (h : Preserves I x Q) (hf : ∀ a, Q a → Preserves I (f a) R) :
    Preserves I (x >>= f) R :=
  fun _ hI => (h hI).bind fun a _ ha => hf a ha.2 ha.1

theorem ite {b : Bool} {y : Turn σ α} (hx : Preserves I x Q) (hy : Preserves I y Q) :
    Preserves I (if b = true then x else y) Q := by
  cases b with
  | true => exact hx
  | false => exact hy

theorem pure {a : α} (h : Q a) : Preserves I (Pure.pure a : Turn σ α) Q :=
  fun _ hI => .pure ⟨hI, h⟩

theorem throw (e : Fault) : Preserves I (MonadExcept.throw e : Turn σ α) Q :=
  fun _ hI => .throw hI

theorem ofExcept {r : Except Fault α} (h : ∀ a, r = .ok a → Q a) : Preserves I (Turn.ofExcept r) Q :=
  fun _ hI => .ofExcept (fun a ha => ⟨hI, h a ha⟩) fun _ _ => hI

/-- What is only computed may come to anything. -/
theorem computed (r : Except Fault α) : Preserves I (Turn.ofExcept r) fun _ => True :=
  ofExcept fun _ _ => trivial

/-- The subject at hand is within the invariant. -/
theorem subject : Preserves I Turn.subject I :=
  fun _ hI => ⟨hI, hI⟩

theorem become {s : σ} (h : I s) : Preserves I (Turn.become s) fun _ => True :=
  fun _ _ => ⟨h, trivial⟩

theorem warn (w : Warning) : Preserves I (Turn.warn w) fun _ => True :=
  fun _ hI => .warn ⟨hI, trivial⟩

/-- Work aside is on a subject with an invariant of its own. -/
theorem aside {start : τ} {work : Turn τ α} (h : Preserves J work Q) (hstart : J start) :
    Preserves I (Turn.aside start work) fun p => Q p.1 ∧ J p.2 := by
  intro st hI
  have hwork := @h (start, st.2) hstart
  unfold Meets at hwork ⊢
  simp only [Turn.aside]
  cases hrun : work (start, st.2) with
  | ok a st' =>
    rw [hrun] at hwork
    exact ⟨hI, hwork.2, hwork.1⟩
  | error e st' => exact hI

end Preserves
end Turn

section Draws
variable {σ α : Type} {I : σ → Prop}

theorem preserves_pick {xs : List α} {Q : α → Prop} (h : ∀ a ∈ xs, Q a) : Turn.Preserves I (pick xs) Q :=
  fun _ hI => meets_pick (fun a ha _ hst => ⟨by rwa [hst.1], h a ha⟩) fun _ => hI

theorem preserves_pickDistinct (p : Property) (excluded : Value) :
    Turn.Preserves I (pickDistinct p excluded) (· ∈ p.domain) := by
  unfold pickDistinct pickExcluding
  split
  · exact preserves_pick fun _ hv => hv
  · rename_i v rest hfilter
    refine preserves_pick fun w hw => ?_
    rw [← hfilter] at hw
    exact (List.mem_filter.1 hw).1

theorem preserves_shuffle (xs : List α) : Turn.Preserves I (shuffle xs) (·.Perm xs) :=
  fun _ hI => meets_shuffle fun _ hperm _ hst => ⟨by rwa [hst.1], hperm⟩

end Draws
end ShapePuzzle
