import ShapePuzzle.Proofs.TurnRuns

/-!
# Faults that a computation may stop with

Whatever a computation stops with is among given faults if that is so for its parts. Nothing is asked of the
values on the way, so one line settles most operations.
-/
namespace ShapePuzzle
variable {E : Fault → Prop} {α β : Type}

theorem except_bind_eq_error {ε : Type} {x : Except ε α} {f : α → Except ε β} {e : ε} :
    (x >>= f) = .error e ↔ x = .error e ∨ ∃ a, x = .ok a ∧ f a = .error e := by
  cases x with
  | ok a => simp [Bind.bind, Except.bind]
  | error e => simp [Bind.bind, Except.bind]

/-- Whatever fault the computation stops with is among the given ones. -/
def StopsWith (E : Fault → Prop) (x : Except Fault α) : Prop := ∀ ⦃e⦄, x = .error e → E e

namespace StopsWith
variable {x : Except Fault α} {f : α → Except Fault β} {e : Fault}

theorem ok (a : α) : StopsWith E (.ok a) := nofun

theorem pure (a : α) : StopsWith E (Pure.pure a : Except Fault α) := nofun

theorem error (h : E e) : StopsWith E (.error e : Except Fault α) := by
  rintro _ ⟨⟩
  exact h

theorem throw (h : E e) : StopsWith E (MonadExcept.throw e : Except Fault α) := error h

theorem bind (hx : StopsWith E x) (hf : ∀ a, x = .ok a → StopsWith E (f a)) : StopsWith E (x >>= f) := by
  intro e he
  cases h : x with
  | ok a =>
    rw [h] at he
    exact hf a h he
  | error e' =>
    rw [h] at he
    cases he
    exact hx h

theorem mono {E' : Fault → Prop} (hx : StopsWith E x) (h : ∀ e, E e → E' e) : StopsWith E' x :=
  fun e he => h e (hx he)

theorem map (g : α → β) (hx : StopsWith E x) : StopsWith E (g <$> x) := by
  cases x with
  | ok a => exact ok _
  | error e => exact error (hx rfl)

theorem discard (hx : StopsWith E x) : StopsWith E (Functor.discard x) := by
  cases x with
  | ok a => exact ok _
  | error e => exact error (hx rfl)

theorem allM {f : α → Except Fault Bool} {xs : List α} (h : ∀ a ∈ xs, StopsWith E (f a)) :
    StopsWith E (xs.allM f) := by
  induction xs with
  | nil => exact pure _
  | cons a rest ih =>
    obtain ⟨ha, hrest⟩ := List.forall_mem_cons.1 h
    refine bind ha fun b _ => ?_
    cases b with
    | true => exact ih hrest
    | false => exact pure _

theorem forM {f : α → Except Fault Unit} {xs : List α} (h : ∀ a ∈ xs, StopsWith E (f a)) :
    StopsWith E (xs.forM f) := by
  induction xs with
  | nil => exact pure _
  | cons a rest ih =>
    obtain ⟨ha, hrest⟩ := List.forall_mem_cons.1 h
    exact bind ha fun _ _ => ih hrest

theorem mapM {xs : List α} (h : ∀ a ∈ xs, StopsWith E (f a)) : StopsWith E (xs.mapM f) := by
  induction xs with
  | nil => exact pure _
  | cons a rest ih =>
    obtain ⟨ha, hrest⟩ := List.forall_mem_cons.1 h
    rw [List.mapM_cons]
    exact bind ha fun _ _ => bind (ih hrest) fun _ _ => pure _

end StopsWith

namespace Turn
variable {σ τ : Type} {x : Turn σ α}

/-- Whatever fault the turn stops with is among the given ones. -/
def StopsWith (E : Fault → Prop) (x : Turn σ α) : Prop := ∀ ⦃st e st'⦄, x st = .error e st' → E e

namespace StopsWith
variable {f : α → Turn σ β} {e : Fault}

/-- What comes after a turn may use what is known of its result. -/
theorem bind_of_run {P : α → Prop} (hx : StopsWith E x) (hP : ∀ ⦃st a st'⦄, x st = .ok a st' → P a)
    (hf : ∀ a, P a → StopsWith E (f a)) : StopsWith E (x >>= f) := by
  intro st e st' h
  simp only [Bind.bind, EStateM.bind] at h
  cases hrun : x st with
  | ok a st₁ =>
    rw [hrun] at h
    exact hf a (hP hrun) h
  | error e' st₁ =>
    rw [hrun] at h
    cases h
    exact hx hrun

theorem bind (hx : StopsWith E x) (hf : ∀ a, StopsWith E (f a)) : StopsWith E (x >>= f) :=
  bind_of_run (P := fun _ => True) hx (fun _ _ _ _ => trivial) fun a _ => hf a

theorem pure (a : α) : StopsWith E (Pure.pure a : Turn σ α) := nofun

theorem throw (h : E e) : StopsWith E (MonadExcept.throw e : Turn σ α) := by
  rintro _ _ _ ⟨⟩
  exact h

theorem ofExcept {r : Except Fault α} (h : ShapePuzzle.StopsWith E r) : StopsWith E (Turn.ofExcept r : Turn σ α) := by
  cases r with
  | ok a => exact pure a
  | error e => exact throw (h rfl)

theorem subject : StopsWith E (Turn.subject : Turn σ σ) := nofun

theorem become (s : σ) : StopsWith E (Turn.become s) := nofun

theorem warn (w : Warning) : StopsWith E (Turn.warn w : Turn σ Unit) := nofun

theorem draw (n : Nat) : StopsWith E (Turn.draw n : Turn σ Nat) := nofun

theorem aside {start : τ} {work : Turn τ α} (h : StopsWith E work) :
    StopsWith E (Turn.aside start work : Turn σ (α × τ)) := by
  intro st e st' hrun
  simp only [Turn.aside] at hrun
  cases hwork : work (start, st.2) with
  | ok a r =>
    rw [hwork] at hrun
    cases hrun
  | error e' r =>
    rw [hwork] at hrun
    cases hrun
    exact h hwork

theorem within {part : σ → τ} {put : τ → σ → σ} {work : Turn τ α} (h : StopsWith E work) :
    StopsWith E (Turn.within part put work) := by
  intro st e st' hrun
  simp only [Turn.within] at hrun
  cases hwork : work (part st.1, st.2) with
  | ok a r =>
    rw [hwork] at hrun
    cases hrun
  | error e' r =>
    rw [hwork] at hrun
    cases hrun
    exact h hwork

end StopsWith
end Turn

section Draws
variable {σ : Type}

theorem stopsWith_pick (hE : E .emptyChoice) (xs : List α) : Turn.StopsWith E (pick xs : Turn σ α) := by
  cases xs with
  | nil => exact .throw hE
  | cons x rest => exact .bind (.draw _) fun _ => .pure _

theorem stopsWith_pickInteger (low high : Int) : Turn.StopsWith E (pickInteger low high : Turn σ Int) := by
  unfold pickInteger
  split
  · exact .bind (.warn _) fun _ => .pure _
  · exact .bind (.draw _) fun _ => .pure _

theorem stopsWith_pickExcluding (hE : E .emptyChoice) (domain excluded : List Value) :
    Turn.StopsWith E (pickExcluding domain excluded : Turn σ Value) := by
  unfold pickExcluding
  split
  · exact stopsWith_pick hE _
  · exact stopsWith_pick hE _

private theorem stopsWith_shuffleFrom (k : Nat) (items : Array α) :
    Turn.StopsWith E (shuffleFrom k items : Turn σ (Array α)) := by
  induction k generalizing items with
  | zero => exact .pure _
  | succ k ih => exact .bind (.draw _) fun _ => ih _

theorem stopsWith_shuffle (xs : List α) : Turn.StopsWith E (shuffle xs : Turn σ (List α)) :=
  .bind (stopsWith_shuffleFrom _ _) fun _ => .pure _

end Draws
end ShapePuzzle
