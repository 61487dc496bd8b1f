import ShapePuzzle.Proofs.NeighborActionEffects

/-!
# Outcomes of turns

A turn returns or stops with a fault, and either way it leaves a subject and a luck. A condition on both outcomes
follows from conditions on the parts of the turn, by one rule for each way to build a turn.
-/
namespace ShapePuzzle

/-- The subject is the same and nothing was logged. -/
def Unmoved {σ : Type} (st st' : σ × Luck) : Prop :=
  st'.1 = st.1 ∧ st'.2.warnings = st.2.warnings

theorem Unmoved.refl {σ : Type} (st : σ × Luck) : Unmoved st st := ⟨rfl, rfl⟩

theorem Unmoved.trans {σ : Type} {st st₁ st₂ : σ × Luck} (h : Unmoved st st₁) (h' : Unmoved st₁ st₂) :
    Unmoved st st₂ :=
  ⟨h'.1.trans h.1, h'.2.trans h.2⟩

namespace Turn
variable {σ τ α β : Type} {st : σ × Luck} {Q : α → σ × Luck → Prop} {R : β → σ × Luck → Prop}
  {E : Fault → σ × Luck → Prop} {x : Turn σ α}

/-- The turn returns with the first condition or stops with the second. -/
def Meets (x : Turn σ α) (st : σ × Luck) (Q : α → σ × Luck → Prop) (E : Fault → σ × Luck → Prop) : Prop :=
  match x st with
  | .ok a st' => Q a st'
  | .error e st' => E e st'

namespace Meets

theorem of_run (hok : ∀ a st', x st = .ok a st' → Q a st') (herror : ∀ e st', x st = .error e st' → E e st') :
    Meets x st Q E := by
  unfold Meets
  cases h : x st with
  | ok a st' => exact hok a st' h
  | error e st' => exact herror e st' h

theorem ok (h : Meets x st Q E) {a : α} {st' : σ × Luck} (hx : x st = .ok a st') : Q a st' := by
  simpa only [Meets, hx] using h

theorem error (h : Meets x st Q E) {e : Fault} {st' : σ × Luck} (hx : x st = .error e st') : E e st' := by
  simpa only [Meets, hx] using h

theorem mono {Q' : α → σ × Luck → Prop} {E' : Fault → σ × Luck → Prop} (h : Meets x st Q E)
    (hQ : ∀ a st', Q a st' → Q' a st') (hE : ∀ e st', E e st' → E' e st') : Meets x st Q' E' :=
  of_run (fun a st' hx => hQ a st' (h.ok hx)) (fun e st' hx => hE e st' (h.error hx))

theorem bind {f : α → Turn σ β} (h : Meets x st Q E) (hf : ∀ a st', Q a st' → Meets (f a) st' R E) :
    Meets (x >>= f) st R E := by
  unfold Meets at h ⊢
  simp only [Bind.bind, EStateM.bind]
  cases hx : x st with
  | ok a st' =>
    rw [hx] at h
    exact hf a st' h
  | error e st' =>
    rw [hx] at h
    exact h

theorem pure {a : α} (h : Q a st) : Meets (Pure.pure a : Turn σ α) st Q E := h

theorem throw {e : Fault} (h : E e st) : Meets (MonadExcept.throw e : Turn σ α) st Q E := h

theorem ofExcept {r : Except Fault α} (hok : ∀ a, r = .ok a → Q a st) (herror : ∀ e, r = .error e → E e st) :
    Meets (Turn.ofExcept r) st Q E := by
  cases r with
  | ok a => exact hok a rfl
  | error e => exact herror e rfl

theorem bind_ofExcept {r : Except Fault α} {f : α → Turn σ β} (hok : ∀ a, r = .ok a → Meets (f a) st R E)
    (herror : ∀ e, r = .error e → E e st) : Meets (Turn.ofExcept r >>= f) st R E :=
  bind (Q := fun a st' => r = .ok a ∧ st' = st) (ofExcept (fun _ h => ⟨h, rfl⟩) herror) (by
    rintro a st' ⟨ha, rfl⟩
    exact hok a ha)

theorem bind_subject {f : σ → Turn σ β} (h : Meets (f st.1) st R E) : Meets (Turn.subject >>= f) st R E := h

theorem bind_become {s : σ} {f : Unit → Turn σ β} (h : Meets (f ()) (s, st.2) R E) :
    Meets (Turn.become s >>= f) st R E := h

theorem warn {w : Warning} {Q : Unit → σ × Luck → Prop}
    (h : Q () (st.1, { st.2 with warnings := st.2.warnings ++ [w] })) : Meets (Turn.warn w) st Q E := h

/-- Of work done aside only the luck is left, whatever came of it. -/
theorem bind_aside {start : τ} {work : Turn τ α} {f : α × τ → Turn σ β}
    (hok : ∀ a t luck, work (start, st.2) = .ok a (t, luck) → Meets (f (a, t)) (st.1, luck) R E)
    (herror : ∀ e luck, E e (st.1, luck)) : Meets (Turn.aside start work >>= f) st R E := by
  refine bind (Q := fun p st' => ∃ luck, work (start, st.2) = .ok p.1 (p.2, luck) ∧ st' = (st.1, luck)) ?_ ?_
  · unfold Meets
    simp only [Turn.aside]
    cases work (start, st.2) with
    | ok a st' => exact ⟨st'.2, rfl, rfl⟩
    | error e st' => exact herror e st'.2
  · rintro p st' ⟨luck, hrun, rfl⟩
    exact hok p.1 p.2 luck hrun

theorem within {part : σ → τ} {put : τ → σ → σ} {work : Turn τ α}
    (h : Meets work (part st.1, st.2) (fun a st' => Q a (put st'.1 st.1, st'.2))
      fun e st' => E e (put st'.1 st.1, st'.2)) : Meets (Turn.within part put work) st Q E := by
  unfold Meets at h ⊢
  simp only [Turn.within]
  cases hwork : work (part st.1, st.2) with
  | ok a st' =>
    rw [hwork] at h
    exact h
  | error e st' =>
    rw [hwork] at h
    exact h

section Grid
variable {st : Grid × Luck} {Q : α → Grid × Luck → Prop} {E : Fault → Grid × Luck → Prop} {k : Nat}

theorem atCell {work : Turn Cell α} {Q : Option α → Grid × Luck → Prop} (hnone : st.1.cells[k]? = none → Q none st)
    (hsome : ∀ c, st.1.cells[k]? = some c → Meets work (c, st.2) (fun a st' => Q (some a) (st.1.put k st'.1, st'.2))
      fun e st' => E e (st.1.put k st'.1, st'.2)) : Meets (Turn.atCell k work) st Q E := by
  unfold Turn.atCell
  apply bind_subject
  cases hc : st.1.cells[k]? with
  | none => exact pure (hnone hc)
  | some c =>
    have hwork : Meets (Turn.within (fun _ => c) (fun c g => g.put k c) work) st (fun a => Q (some a)) E :=
      within (hsome c hc)
    exact hwork.bind fun a st' ha => pure ha

end Grid
end Meets

/-- Whether the turn returns and logs nothing, as can be tested on a given luck. -/
def returnsQuietly (x : Turn σ α) (st : σ × Luck) : Bool :=
  match x st with
  | .ok _ st' => st'.2.warnings.isEmpty
  | .error _ _ => false

theorem exists_of_returnsQuietly (x : Turn σ α) (st : σ × Luck) (h : x.returnsQuietly st = true) :
    ∃ a s luck, x st = .ok a (s, luck) ∧ luck.warnings = [] := by
  unfold returnsQuietly at h
  cases hx : x st with
  | ok a st' =>
    rw [hx] at h
    exact ⟨a, st'.1, st'.2, rfl, List.isEmpty_iff.1 h⟩
  | error e st' =>
    rw [hx] at h
    cases h

end Turn

section Draws
variable {σ α : Type} {st : σ × Luck} {E : Fault → σ × Luck → Prop}

/-- Something of what is offered is picked, unless nothing is. -/
theorem meets_pick {xs : List α} {Q : α → σ × Luck → Prop} (h : ∀ a ∈ xs, ∀ st', Unmoved st st' → Q a st')
    (hnone : xs = [] → E .emptyChoice st) : Turn.Meets (pick xs) st Q E := by
  cases xs with
  | nil => exact .throw (hnone rfl)
  | cons x rest =>
    apply Turn.Meets.of_run
    · intro a st' hrun
      have hspec := pick_spec hrun
      exact h a hspec.1 st' ⟨hspec.2, (silent_pick _).warnings_eq hrun⟩
    · intro e st' hrun
      cases hrun

theorem meets_pickExcluding {domain excluded : List Value} {Q : Value → σ × Luck → Prop}
    (h : ∀ v st', Unmoved st st' → Q v st') (hnone : domain = [] → E .emptyChoice st) :
    Turn.Meets (pickExcluding domain excluded) st Q E := by
  unfold pickExcluding
  split
  · exact meets_pick (fun v _ => h v) hnone
  · exact meets_pick (fun v _ => h v) fun hnil => absurd hnil (List.cons_ne_nil _ _)

private theorem shuffleFrom_ne_error (k : Nat) (items : Array α) (st : σ × Luck) (e : Fault) (st' : σ × Luck) :
    (shuffleFrom k items : Turn σ (Array α)) st ≠ .error e st' := by
  induction k generalizing items st with
  | zero => exact fun h => by cases h
  | succ k ih => exact ih _ _

/-- Shuffling always returns. -/
theorem meets_shuffle {xs : List α} {Q : List α → σ × Luck → Prop}
    (h : ∀ ys, ys.Perm xs → ∀ st', Unmoved st st' → Q ys st') : Turn.Meets (shuffle xs) st Q E := by
  have hitems : Turn.Meets (shuffleFrom (xs.length - 1) xs.toArray) st
      (fun items st' => (shuffle xs : Turn σ (List α)) st = .ok items.toList st') E := by
    apply Turn.Meets.of_run
    · intro items st' hrun
      exact Turn.bind_eq_ok.2 ⟨items, st', hrun, rfl⟩
    · intro e st' hrun
      exact absurd hrun (shuffleFrom_ne_error _ _ _ _ _)
  refine hitems.bind fun items st' hrun => .pure ?_
  have hspec := shuffle_spec hrun
  exact h _ hspec.1 st' ⟨hspec.2, (silent_shuffle _).warnings_eq hrun⟩

end Draws
end ShapePuzzle
