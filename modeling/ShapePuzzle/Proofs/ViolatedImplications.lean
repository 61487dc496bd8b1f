import ShapePuzzle.Proofs.RefutedCells

/-!
# Implications that were violated

A counterexample is made on a copy of a cell and takes its place only once the implication fails on it. So the grid
is left with one cell changed, on which the implication fails, or as it was.
-/
namespace ShapePuzzle
variable {details : Details} {st₀ st : Grid × Luck}

namespace Implication
variable {r : Implication} {size : Int} {cell : Cell} {g g' : Grid}

/-- The implication fails on what was found, and it stands where the cell stood. -/
def RefutedBy (r : Implication) (details : Details) (size : Int) (cell found : Cell) : Prop :=
  found.position = cell.position ∧ r.holdsOn details size found = .ok false

/-- One cell of the grid gave way to a counterexample. -/
def Violated (r : Implication) (details : Details) (g g' : Grid) : Prop :=
  ∃ k cell found, g.cells[k]? = some cell ∧ r.RefutedBy details g.size cell found ∧ g' = g.put k found

theorem Violated.refutedOn (h : r.Violated details g g') : (Rule.implication r).RefutedOn details g' := by
  obtain ⟨k, cell, found, hcell, hfound, rfl⟩ := h
  exact ⟨found, List.mem_of_getElem? (Grid.getElem?_put_self hcell), hfound.2⟩

/-- Nothing has changed since, and what was found, if anything, refutes the implication. -/
private def Found (r : Implication) (details : Details) (size : Int) (cell : Cell) (st₀ : Grid × Luck)
    (x : Option Cell) (st : Grid × Luck) : Prop :=
  Unmoved st₀ st ∧ ∀ found, x = some found → r.RefutedBy details size cell found

private theorem meets_refuteSome {actions : List CellAction} (hst : Unmoved st₀ st) :
    Turn.Meets (r.refuteSome details size cell actions) st (r.Found details size cell st₀)
      fun _ st' => st'.1 = st₀.1 := by
  induction actions generalizing st with
  | nil => exact .pure ⟨hst, nofun⟩
  | cons a rest ih =>
    refine .bind_aside ?_ fun _ _ => hst.1
    intro refuted found luck hrun
    have hst' : Unmoved st₀ (st.1, luck) := hst.trans ⟨rfl, (a.silent_refute details size).warnings_eq hrun⟩
    cases refuted with
    | false => exact ih hst'
    | true =>
      refine .bind_ofExcept (fun b hb => ?_) fun _ _ => hst'.1
      cases b with
      | true => exact ih hst'
      | false =>
        refine .pure ⟨hst', ?_⟩
        rintro _ ⟨⟩
        exact ⟨CellAction.position_of_refute hrun, hb⟩

private theorem meets_counterexample (hst : Unmoved st₀ st) :
    Turn.Meets (r.counterexample details size cell) st (r.Found details size cell st₀)
      fun _ st' => st'.1 = st₀.1 := by
  have hrefute : ∀ {st₁ : Grid × Luck}, Unmoved st₀ st₁ →
      Turn.Meets (do r.refuteSome details size cell (← shuffle r.actions)) st₁ (r.Found details size cell st₀)
        fun _ st' => st'.1 = st₀.1 := fun hst₁ =>
    .bind (Q := fun _ => Unmoved st₀) (meets_shuffle fun _ _ _ h => hst₁.trans h) fun _ _ => meets_refuteSome
  dsimp only [counterexample]
  cases r.violation with
  | none => exact hrefute hst
  | some v =>
    refine .bind_aside ?_ fun _ _ => hst.1
    intro status found luck hrun
    have hst' : Unmoved st₀ (st.1, luck) := hst.trans ⟨rfl, (v.silent_apply details size).warnings_eq hrun⟩
    refine .bind_ofExcept (fun b hb => ?_) fun _ _ => hst'.1
    cases b with
    | true => exact hrefute hst'
    | false =>
      refine .pure ⟨hst', ?_⟩
      rintro _ ⟨⟩
      exact ⟨(CellAction.apply_frame hrun).1.symm, hb⟩

/-- A search that succeeded has violated the implication, and one that failed has changed nothing. -/
def Tried (r : Implication) (details : Details) (st₀ : Grid × Luck) (done : Bool) (st : Grid × Luck) :
    Prop :=
  st.2.warnings = st₀.2.warnings ∧ if done then r.Violated details st₀.1 st.1 else st.1 = st₀.1

/-- What was found takes the place of the cell. -/
private theorem meets_commit {k : Nat} {found : Cell} (hst : Unmoved st₀ st) (hcell : st₀.1.cells[k]? = some cell)
    (hfound : r.RefutedBy details st₀.1.size cell found) :
    Turn.Meets (do Turn.commit k found; return true) st (r.Tried details st₀) fun _ st' => st'.1 = st₀.1 := by
  obtain ⟨g, luck⟩ := st
  obtain ⟨rfl, hlog⟩ := hst
  exact .bind_commit hcell hfound.1 (.pure ⟨hlog, k, cell, found, hcell, hfound, rfl⟩)

private theorem meets_violateWitness {cells : List (Cell × Nat)}
    (hcells : ∀ p ∈ cells, st₀.1.cells[p.2]? = some p.1) (hst : Unmoved st₀ st) :
    Turn.Meets (r.violateWitness details st₀.1.size cells) st (r.Tried details st₀)
      fun _ st' => st'.1 = st₀.1 := by
  induction cells generalizing st with
  | nil => exact .pure ⟨hst.2, hst.1⟩
  | cons p rest ih =>
    obtain ⟨hcell, hrest⟩ := List.forall_mem_cons.1 hcells
    refine (meets_counterexample hst).bind fun x st₁ hfound => ?_
    cases x with
    | none => exact ih hrest hfound.1
    | some found => exact meets_commit hfound.1 hcell (hfound.2 found rfl)

theorem meets_violateForced {cells : List (Cell × Nat)}
    (hcells : ∀ p ∈ cells, st₀.1.cells[p.2]? = some p.1) (hst : Unmoved st₀ st) :
    Turn.Meets (r.violateForced details st₀.1.size cells) st (r.Tried details st₀)
      fun _ st' => st'.1 = st₀.1 := by
  induction cells generalizing st with
  | nil => exact .pure ⟨hst.2, hst.1⟩
  | cons p rest ih =>
    obtain ⟨hcell, hrest⟩ := List.forall_mem_cons.1 hcells
    refine (meets_forcedAside hst).bind fun x st₁ hforced => ?_
    cases x with
    | none => exact ih hrest hforced.1
    | some forced =>
      have hpos := (hforced.2 forced rfl).1
      refine .bind_ofExcept (fun b hb => ?_) fun _ _ => hforced.1.1
      cases b with
      | false => exact meets_commit hforced.1 hcell ⟨hpos, hb⟩
      | true =>
        refine (meets_counterexample hforced.1).bind fun x st₂ hfound => ?_
        cases x with
        | none => exact ih hrest hfound.1
        | some found =>
          obtain ⟨hfoundPos, hfalse⟩ := hfound.2 found rfl
          exact meets_commit hfound.1 hcell ⟨hfoundPos.trans hpos, hfalse⟩

theorem mem_witnesses {cells ws : List (Cell × Nat)} (h : r.witnesses details size cells = .ok ws)
    (p : Cell × Nat) : p ∈ ws ↔ p ∈ cells ∧ r.isWitness details size p.1 = .ok true := by
  induction cells generalizing ws with
  | nil =>
    cases h
    simp
  | cons c cs ih =>
    simp only [witnesses, except_bind_eq_ok, except_pure_eq_ok] at h
    obtain ⟨witness, hc, rest, hrest, rfl⟩ := h
    have hmem := ih hrest
    cases witness with
    | false =>
      simp only [Bool.false_eq_true, if_false, List.mem_cons, hmem]
      grind
    | true =>
      simp only [if_true, List.mem_cons, hmem]
      grind

/-- Sorting the cells by region loses none. -/
theorem perm_of_byRegion {cells outs ins : List (Cell × Nat)}
    (h : r.byRegion details size cells = .ok (outs, ins)) : (outs ++ ins).Perm cells := by
  induction cells generalizing outs ins with
  | nil =>
    cases h
    exact .refl _
  | cons c cs ih =>
    simp only [byRegion, except_bind_eq_ok, except_pure_eq_ok] at h
    obtain ⟨inside, -, ⟨os, is⟩, hrest, h⟩ := h
    cases inside with
    | false =>
      cases h
      exact (ih hrest).cons c
    | true =>
      cases h
      exact List.perm_middle.trans ((ih hrest).cons c)

theorem meets_violateFound (r : Implication) (details : Details) (st : Grid × Luck) :
    Turn.Meets (r.violateFound details st.1) st (r.Tried details st) fun _ st' => st'.1 = st.1 := by
  refine .bind_ofExcept (fun ws hws => ?_) fun _ _ => rfl
  refine .bind (Q := fun found st₁ => found.Perm ws ∧ Unmoved st st₁) (meets_shuffle fun _ hp _ h => ⟨hp, h⟩) ?_
  rintro found st₁ ⟨hperm, hst₁⟩
  refine meets_violateWitness (fun p hp => ?_) hst₁
  exact Grid.mem_numbered.1 ((mem_witnesses hws p).1 (hperm.mem_iff.1 hp)).1

theorem meets_violateElsewhere (r : Implication) (details : Details) (st : Grid × Luck) :
    Turn.Meets (r.violateElsewhere details st.1) st
      (fun _ st' => r.Violated details st.1 st'.1 ∧ st'.2.warnings = st.2.warnings ∨
        st'.1 = st.1 ∧ st'.2.warnings = st.2.warnings ++ [.implicationKept])
      fun _ st' => st'.1 = st.1 := by
  refine .bind (Q := fun cells st₁ => cells.Perm st.1.numbered ∧ Unmoved st st₁)
    (meets_shuffle fun _ hp _ h => ⟨hp, h⟩) ?_
  rintro cells st₁ ⟨hcells, hst₁⟩
  refine .bind_ofExcept (fun split hsplit => ?_) fun _ _ => hst₁.1
  obtain ⟨outs, ins⟩ := split
  refine (meets_violateForced (fun p hp => ?_) hst₁).bind fun done st₂ htried => ?_
  · exact Grid.mem_numbered.1 (((perm_of_byRegion hsplit).trans hcells).mem_iff.1 hp)
  cases done with
  | true => exact .pure (.inl ⟨htried.2, htried.1⟩)
  | false => exact .warn (.inr ⟨htried.2, by rw [htried.1]⟩)

/-- Violating an implication puts a counterexample in the place of one cell or says that it was skipped. Where it
was skipped, or stopped with a fault, the grid is as before. -/
theorem meets_violate (r : Implication) (details : Details) (st : Grid × Luck) :
    Turn.Meets (r.violate details) st
      (fun _ st' => r.Violated details st.1 st'.1 ∧ st'.2.warnings = st.2.warnings ∨
        st'.1 = st.1 ∧ st'.2.warnings = st.2.warnings ++ [.implicationKept])
      fun _ st' => st'.1 = st.1 := by
  rw [violate_eq]
  refine .bind_subject ((r.meets_violateFound details st).bind fun done st₁ htried => ?_)
  cases done with
  | true => exact .pure (.inl ⟨htried.2, htried.1⟩)
  | false =>
    obtain ⟨g, luck⟩ := st
    obtain ⟨g₁, luck₁⟩ := st₁
    obtain ⟨hlog, rfl⟩ : luck₁.warnings = luck.warnings ∧ g₁ = g := htried
    have helsewhere := r.meets_violateElsewhere details (g₁, luck₁)
    dsimp only at helsewhere ⊢
    rw [hlog] at helsewhere
    exact helsewhere

end Implication

end ShapePuzzle
