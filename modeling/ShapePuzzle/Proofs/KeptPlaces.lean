import ShapePuzzle.Proofs.ImplicationEnforcement

/-!
# Cells keep their places

Enforcing changes the values of cells and moves none, whatever the rules are and whatever they achieve.
-/
namespace ShapePuzzle
variable {details : Details} {size : Int}

theorem Grid.RowMajor.atCell {α : Type} {k : Nat} {work : Turn Cell α} {st st' : Grid × Luck} {x : Option α}
    (hg : st.1.RowMajor) (hwork : ∀ c a c' luck, work (c, st.2) = .ok a (c', luck) → c'.position = c.position)
    (h : (Turn.atCell k work) st = .ok x st') : st'.1.RowMajor := by
  rcases Turn.atCell_spec h with ⟨-, -, rfl⟩ | ⟨c, a, c', luck, hc, hrun, -, rfl⟩
  · exact hg
  · exact rowMajor_put hg hc (hwork c a c' luck hrun)

namespace Implication
variable {r : Implication} {st st' : Cell × Luck} {u : Unit}

private theorem position_of_runActions {actions : List CellAction}
    (h : (r.runActions details size actions) st = .ok u st') : st'.1.position = st.1.position := by
  induction actions generalizing st with
  | nil => rw [(Turn.pure_eq_ok.1 h).2]
  | cons a rest ih =>
    obtain ⟨status, st₁, ha, h⟩ := Turn.bind_eq_ok.1 h
    have hfirst := (CellAction.apply_frame ha).1
    cases status with
    | applied => rw [ih h, hfirst]
    | needsBreak => rw [hfirst, (breakAntecedent_spec h).1.1]

theorem position_of_enforceCell (h : (r.enforceCell details size) st = .ok u st') :
    st'.1.position = st.1.position := by
  rcases enforceCell_cases h with ⟨-, rfl⟩ | ⟨-, h⟩
  · rfl
  · exact position_of_runActions h

end Implication

variable {st st' : Grid × Luck} {u : Unit}

namespace Requirement
variable {r : Requirement} {cell : Cell}

private theorem rowMajor_of_satisfy {done : Bool} (hg : st.1.RowMajor)
    (h : (r.satisfy details cell) st = .ok done st') : st'.1.RowMajor := by
  obtain ⟨g, _, hs, h⟩ := Turn.bind_eq_ok.1 h
  obtain ⟨-, rfl⟩ := Turn.subject_eq_ok.1 hs
  obtain ⟨x, _, hx, h⟩ := Turn.bind_eq_ok.1 h
  obtain ⟨-, rfl⟩ := Turn.ofExcept_eq_ok.1 hx
  cases x with
  | none =>
    rw [← (Turn.pure_eq_ok.1 h).2]
    exact hg
  | some p =>
    obtain ⟨y, st₁, hy, h⟩ := Turn.bind_eq_ok.1 h
    have hg₁ : st₁.1.RowMajor := hg.atCell (fun _ _ _ _ hrun => (satisfyNeighbor_frame hrun).1.symm) hy
    have hsame : st' = st₁ := by
      rcases y with _ | _ | _
      · exact (Turn.pure_eq_ok.1 h).2.symm
      · exact (Turn.pure_eq_ok.1 h).2.symm
      · obtain ⟨g₁, _, hs, h⟩ := Turn.bind_eq_ok.1 h
        obtain ⟨-, rfl⟩ := Turn.subject_eq_ok.1 hs
        cases hn : g₁.cells[p.2]? with
        | none =>
          simp only [hn] at h
          exact (Turn.pure_eq_ok.1 h).2.symm
        | some n =>
          simp only [hn] at h
          exact (Turn.ofExcept_eq_ok.1 h).2.symm
    rw [hsame]
    exact hg₁

theorem rowMajor_of_enforceCell {k : Nat} (hg : st.1.RowMajor)
    (h : (r.enforceCell details k cell) st = .ok u st') : st'.1.RowMajor := by
  obtain ⟨g, _, hs, h⟩ := Turn.bind_eq_ok.1 h
  obtain ⟨-, rfl⟩ := Turn.subject_eq_ok.1 hs
  obtain ⟨b, _, hb, h⟩ := Turn.bind_eq_ok.1 h
  obtain ⟨-, rfl⟩ := Turn.ofExcept_eq_ok.1 hb
  cases b with
  | false =>
    rw [← (Turn.pure_eq_ok.1 h).2]
    exact hg
  | true =>
    obtain ⟨done, st₁, hdone, h⟩ := Turn.bind_eq_ok.1 h
    have hg₁ := rowMajor_of_satisfy hg hdone
    cases done with
    | true =>
      rw [← (Turn.pure_eq_ok.1 h).2]
      exact hg₁
    | false =>
      obtain ⟨_, st₂, hbreak, h⟩ := Turn.bind_eq_ok.1 h
      rw [← (Turn.pure_eq_ok.1 h).2]
      exact hg₁.atCell (fun _ _ _ _ hrun => (breakAntecedent_spec hrun).1.1.symm) hbreak

end Requirement

namespace Rule
variable {rule : Rule}

private theorem rowMajor_of_enforceAt {k : Nat} (hg : st.1.RowMajor)
    (h : (rule.enforceAt details k) st = .ok u st') : st'.1.RowMajor := by
  obtain ⟨g, _, hs, h⟩ := Turn.bind_eq_ok.1 h
  obtain ⟨rfl, rfl⟩ := Turn.subject_eq_ok.1 hs
  cases rule with
  | implication r =>
    obtain ⟨x, st₁, hx, h⟩ := Turn.bind_eq_ok.1 h
    rw [← (Turn.pure_eq_ok.1 h).2]
    exact hg.atCell (fun _ _ _ _ hrun => Implication.position_of_enforceCell hrun) hx
  | requirement r =>
    cases hcell : st.1.cells[k]? with
    | none =>
      simp only [hcell] at h
      rw [← (Turn.pure_eq_ok.1 h).2]
      exact hg
    | some cell =>
      simp only [hcell] at h
      exact Requirement.rowMajor_of_enforceCell hg h

private theorem rowMajor_of_enforceFrom {ks : List Nat} (hg : st.1.RowMajor)
    (h : (rule.enforceFrom details ks) st = .ok u st') : st'.1.RowMajor := by
  induction ks generalizing st with
  | nil =>
    rw [← (Turn.pure_eq_ok.1 h).2]
    exact hg
  | cons k ks ih =>
    obtain ⟨_, st₁, hfirst, h⟩ := Turn.bind_eq_ok.1 h
    exact ih (rowMajor_of_enforceAt hg hfirst) h

theorem rowMajor_of_enforce (hg : st.1.RowMajor) (h : (rule.enforce details) st = .ok u st') :
    st'.1.RowMajor := by
  obtain ⟨g, _, hs, h⟩ := Turn.bind_eq_ok.1 h
  obtain ⟨-, rfl⟩ := Turn.subject_eq_ok.1 hs
  exact rowMajor_of_enforceFrom hg h

theorem rowMajor_of_enforceAll {rules : List Rule} (hg : st.1.RowMajor)
    (h : (enforceAll details rules) st = .ok u st') : st'.1.RowMajor := by
  induction rules generalizing st with
  | nil =>
    rw [← (Turn.pure_eq_ok.1 h).2]
    exact hg
  | cons rule rest ih =>
    obtain ⟨_, st₁, hfirst, h⟩ := Turn.bind_eq_ok.1 h
    exact ih (rowMajor_of_enforce hg hfirst) h

end Rule
end ShapePuzzle
