import ShapePuzzle.Proofs.ForcingSucceeds

/-!
# Conditions that ask for different properties apart

A separable condition is made up of conditions on one property each, so that no two that have to hold together
look at the same one. Forcing it succeeds on a cell just when values of the domains can make it hold there.
-/
namespace ShapePuzzle.Condition
variable {details : Details} {size : Int} {c : Condition} {cell : Cell}

/-- Built from conditions that look at no more than one property by alternatives and by demands on different
properties. -/
inductive Separable : Condition → Prop
  | single {c : Condition} (h : ∀ p q, c.reads p = true → c.reads q = true → p = q) : Separable c
  | any {cs : List Condition} (h : ∀ c ∈ cs, Separable c) : Separable (.any cs)
  | all {cs : List Condition} (h : ∀ c ∈ cs, Separable c)
    (hdisjoint : cs.Pairwise fun a b => ∀ p, b.reads p = true → a.reads p = false) : Separable (.all cs)

/-- Some values of the domains make the condition hold where the cell stands. -/
def Feasible (details : Details) (size : Int) (c : Condition) (cell : Cell) : Prop :=
  ∃ d : Cell, d.Ordinary ∧ d.position = cell.position ∧ c.evaluate (d.context details size) = .ok true

theorem Feasible.of_position {d : Cell} (h : c.Feasible details size cell) (hpos : d.position = cell.position) :
    c.Feasible details size d := by
  obtain ⟨e, he, hsame, htrue⟩ := h
  exact ⟨e, he, hsame.trans hpos.symm, htrue⟩

theorem Feasible.of_mem_all {cs : List Condition} (h : (Condition.all cs).Feasible details size cell) (hc : c ∈ cs) :
    c.Feasible details size cell := by
  obtain ⟨d, hd, hpos, htrue⟩ := h
  exact ⟨d, hd, hpos, evaluateAll_eq_ok_true.1 htrue c hc⟩

theorem Feasible.exists_of_any {cs : List Condition} (h : (Condition.any cs).Feasible details size cell) :
    ∃ c ∈ cs, c.Feasible details size cell := by
  obtain ⟨d, hd, hpos, htrue⟩ := h
  obtain ⟨c, hc, htrue⟩ := exists_of_evaluateAny htrue
  exact ⟨c, hc, d, hd, hpos, htrue⟩

private theorem takes_of_feasible_single (hsingle : ∀ p q, c.reads p = true → c.reads q = true → p = q)
    (hcell : cell.Ordinary) (h : c.Feasible details size cell) : c.Takes details size cell := by
  obtain ⟨d, hd, hpos, htrue⟩ := h
  by_cases hreads : ∃ p, c.reads p = true
  · obtain ⟨p, hp⟩ := hreads
    have hagree : d.AgreeOn (c.reads ·) (cell.set p (d.get p)) := by
      refine ⟨by rw [hpos, Cell.position_set], fun q hq => ?_⟩
      rw [hsingle q p hq hp, Cell.get_set_self]
    rw [evaluate_context_congr hagree] at htrue
    exact takes_of_single (fun q hq => hsingle q p hq hp) hcell (hd p) htrue
  · have hagree : d.AgreeOn (c.reads ·) cell := ⟨hpos, fun p hp => absurd ⟨p, hp⟩ hreads⟩
    rw [evaluate_context_congr hagree] at htrue
    exact takes_of_evaluate htrue

/-- A separable condition comes to hold wherever it can. -/
theorem Separable.takes (hc : c.Separable) (hcell : cell.Ordinary) (h : c.Feasible details size cell) :
    c.Takes details size cell := by
  induction hc generalizing cell with
  | single hsingle => exact takes_of_feasible_single hsingle hcell h
  | any _ ih =>
    obtain ⟨d, hd, hfeasible⟩ := h.exists_of_any
    exact takes_any ⟨d, hd, fun e he hpos => ih d hd he (hfeasible.of_position hpos)⟩ hcell
  | all _ hdisjoint ih =>
    exact takes_all (fun d hd e he hpos => ih d hd he ((h.of_mem_all hd).of_position hpos)) hdisjoint hcell

/-- Forcing a separable condition on a cell with values of the domains tells whether such values can make it hold
there. -/
theorem eq_true_iff_of_force {st st' : Cell × Luck} {b : Bool} (hc : c.Separable) (hcell : st.1.Ordinary)
    (h : (c.force details size) st = .ok b st') :
    b = true ↔ ∃ d : Cell, d.Ordinary ∧ d.position = st.1.position ∧
      c.evaluate (d.context details size) = .ok true := by
  constructor
  · rintro rfl
    obtain ⟨htrue, hrefilled⟩ := force_spec c h
    exact ⟨st'.1, hrefilled.ordinary hcell, hrefilled.position, htrue⟩
  · exact fun hfeasible => hc.takes hcell hfeasible h

/-- Alternatives on shape and color together with a demand on the number. -/
def circleOrPinkAbove (n : Int) : Condition :=
  .all [
    .any [.compare .equals (.cellProperty .shape) (.constant (.text "circle")),
      .compare .equals (.cellProperty .color) (.constant (.text "#ff82a9"))],
    .not (.compare .lessOrEqual (.cellProperty .number) (.number (.int n)))]

private theorem separable_circleOrPinkAbove (n : Int) : (circleOrPinkAbove n).Separable := by
  have hcompare : ∀ op p v, (Condition.compare op (.cellProperty p) (.constant v)).Separable := by
    refine fun op p v => .single fun q q' hq hq' => ?_
    simp only [reads, Ref.reads, Bool.or_false, decide_eq_true_eq] at hq hq'
    rw [← hq, hq']
  refine .all (List.forall_mem_cons.2 ⟨.any ?_, List.forall_mem_singleton.2 (.single ?_)⟩) ?_
  · exact List.forall_mem_cons.2 ⟨hcompare _ _ _, List.forall_mem_singleton.2 (hcompare _ _ _)⟩
  · intro q q' hq hq'
    simp only [reads, Ref.reads, Bool.or_false, decide_eq_true_eq] at hq hq'
    rw [← hq, hq']
  · simp only [List.pairwise_cons, List.forall_mem_singleton]
    refine ⟨fun p hp => ?_, by simp⟩
    cases p <;> simp [reads, someReads, Ref.reads] at hp ⊢

def greenSquare : Cell × Luck := (⟨.text "square", .text "#7ed957", .int 5, ⟨0, 0⟩⟩, .start fun _ => 1)

/-- A green square with a five can be forced to be a circle or pink with a number above seven, but not above ten. -/
theorem eq_true_iff_of_force_greenSquare : ∃ st st',
    ((circleOrPinkAbove 7).force [] 5) greenSquare = .ok true st ∧
    ((circleOrPinkAbove 10).force [] 5) greenSquare = .ok false st' ∧
    (∃ d : Cell, d.Ordinary ∧ d.position = ⟨0, 0⟩ ∧ (circleOrPinkAbove 7).evaluate (d.context [] 5) = .ok true) ∧
    ¬ ∃ d : Cell, d.Ordinary ∧ d.position = ⟨0, 0⟩ ∧ (circleOrPinkAbove 10).evaluate (d.context [] 5) = .ok true := by
  have hcell : greenSquare.1.Ordinary := by
    intro p
    cases p <;> simp [greenSquare, Cell.get, Property.domain, shapes, colors, palette, Fields.keys, numbers]
  have hseven : ∃ st, ((circleOrPinkAbove 7).force [] 5) greenSquare = .ok true st := ⟨_, rfl⟩
  have hten : ∃ st, ((circleOrPinkAbove 10).force [] 5) greenSquare = .ok false st := ⟨_, rfl⟩
  obtain ⟨st, hst⟩ := hseven
  obtain ⟨st', hst'⟩ := hten
  refine ⟨st, st', hst, hst', ?_, fun hfeasible => ?_⟩
  · exact (eq_true_iff_of_force (separable_circleOrPinkAbove 7) hcell hst).1 rfl
  · cases (eq_true_iff_of_force (separable_circleOrPinkAbove 10) hcell hst').2 hfeasible

end ShapePuzzle.Condition
