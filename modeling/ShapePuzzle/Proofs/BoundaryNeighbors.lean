import ShapePuzzle.Proofs.EdgeRegions
import ShapePuzzle.Proofs.NeighborPlaces
import ShapePuzzle.Proofs.RequirementEnforcement

/-!
# Neighbors at the boundary

A step in a direction leaves the grid just from the rows and columns next to the edges that lie in that direction.
From all other cells it leads to another cell of the grid, and the opposite step leads back.
-/
namespace ShapePuzzle

/-- The edges that lie in a direction. -/
def Direction.edges : Direction → List Edge
  | right => [.right]
  | left => [.left]
  | above => [.top]
  | below => [.bottom]
  | topLeft => [.top, .left]
  | topRight => [.top, .right]
  | bottomLeft => [.bottom, .left]
  | bottomRight => [.bottom, .right]

/-- A step off the grid starts in a row or a column next to an edge in its direction. -/
theorem Direction.not_on_step_iff {size : Int} {p : Position} (hp : p.On size) (d : Direction) :
    ¬ (d.step p).On size ↔ ∃ e ∈ d.edges, e.covers size 1 p = true := by
  obtain ⟨⟨hrow, hrow'⟩, hcol, hcol'⟩ := hp
  cases d <;> simp [Position.On, step, offset, edges, Edge.covers] <;> omega

namespace Grid
variable {g : Grid} {k : Nat} {c : Cell}

theorem inBounds_iff (g : Grid) (p : Position) : g.inBounds p = true ↔ p.On g.size := by
  simp [inBounds, Position.On, and_assoc]

theorem index?_eq_none_iff (g : Grid) (p : Position) : g.index? p = none ↔ ¬ p.On g.size := by
  rw [← inBounds_iff, index?]
  split <;> simp [*]

/-- The cells of a grid stand on it. -/
theorem on_of_rowMajor (hsize : 0 ≤ g.size) (hg : g.RowMajor) (hc : g.cells[k]? = some c) :
    c.position.On g.size := by
  obtain ⟨hk, -⟩ := List.getElem?_eq_some_iff.1 hc
  have hlt : (k : Int) < g.size * g.size := g.square ▸ Int.ofNat_lt.2 hk
  have hpos : 0 < g.size := by
    rcases Int.lt_or_eq_of_le hsize with h | h
    · exact h
    · rw [← h] at hlt
      omega
  rw [hg hc, Position.ofIndex, Int.fdiv_eq_ediv_of_nonneg _ hsize, Int.fmod_eq_emod_of_nonneg _ hsize]
  exact ⟨⟨Int.ediv_nonneg (by omega) hsize, Int.ediv_lt_of_lt_mul hpos hlt⟩,
    Int.emod_nonneg _ (by omega), Int.emod_lt_of_pos _ hpos⟩

/-- A cell is found at its position. -/
theorem index?_position (hsize : 0 ≤ g.size) (hg : g.RowMajor) (hc : g.cells[k]? = some c) :
    g.index? c.position = some k := by
  cases hindex : g.index? c.position with
  | none => exact absurd (on_of_rowMajor hsize hg hc) ((index?_eq_none_iff g _).1 hindex)
  | some j =>
    have hpos := ofIndex_of_index? hindex
    rw [hg hc] at hpos
    rw [Position.ofIndex_injective g.size hpos]

/-- There is no neighbor in a direction just where the cell lies at one of the edges there. Any neighbor is another cell
of the grid and has the cell for its neighbor in the opposite direction, so no other cell has the same neighbor. -/
theorem neighbors_of_cell (hsize : 0 ≤ g.size) (hg : g.RowMajor) (hc : g.cells[k]? = some c) (d : Direction) :
    (g.neighborIndex? c.position d = none ↔
      ∃ e ∈ d.edges, isInRegion c.position (.text e.name) (.int 1) g.size = .ok true) ∧
    ∀ j, g.neighborIndex? c.position d = some j →
      (∀ e ∈ d.edges, isInRegion c.position (.text e.name) (.int 1) g.size = .ok false) ∧
      (∃ c', g.cells[j]? = some c' ∧ j ≠ k ∧ c'.position = d.step c.position ∧
        g.neighborIndex? c'.position d.opposite = some k) ∧
      ∀ i c', g.cells[i]? = some c' → g.neighborIndex? c'.position d = some j → i = k := by
  have hnone : g.neighborIndex? c.position d = none ↔ ∃ e ∈ d.edges, e.covers g.size 1 c.position = true :=
    (index?_eq_none_iff g _).trans (d.not_on_step_iff (on_of_rowMajor hsize hg hc))
  simp only [Edge.isInRegion_eq, Except.ok.injEq]
  refine ⟨hnone, fun j hj => ⟨fun e he => ?_, ?_, fun i c' hc' hi => neighborIndex?_injective hg hc' hc hi hj⟩⟩
  · rw [Bool.eq_false_iff]
    intro hcovers
    rw [hnone.2 ⟨e, he, hcovers⟩] at hj
    cases hj
  · obtain ⟨c', hc'⟩ := exists_cell_of_index? hj
    have hstep : c'.position = d.step c.position := (hg hc').trans (ofIndex_of_index? hj)
    refine ⟨c', hc', neighborIndex?_ne hg hc hj, hstep, ?_⟩
    rw [neighborIndex?, hstep, d.step_opposite]
    exact index?_position hsize hg hc

/-- The upper right cell of two rows of two lies at the upper edge, but has a neighbor below on its left. -/
theorem neighbors_of_cell_upperRight :
    let g := Requirement.pairOfRows ("circle", "#ff82a9") ("square", "#7ed957")
    let c : Cell := ⟨.text "square", .text "#7ed957", .int 1, ⟨0, 1⟩⟩
    0 ≤ g.size ∧ g.RowMajor ∧ g.cells[1]? = some c ∧ g.neighborIndex? c.position .topLeft = none ∧
      (∃ e ∈ Direction.topLeft.edges, isInRegion c.position (.text e.name) (.int 1) g.size = .ok true) ∧
      g.neighborIndex? c.position .bottomLeft = some 2 ∧
      ∃ c', g.cells[2]? = some c' ∧ 2 ≠ 1 ∧ c'.position = Direction.bottomLeft.step c.position ∧
        g.neighborIndex? c'.position .topRight = some 1 := by
  intro g c
  have hsize : 0 ≤ g.size := by decide
  have hg : g.RowMajor := Requirement.rowMajor_pairOfRows _ _
  have hc : g.cells[1]? = some c := rfl
  exact ⟨hsize, hg, hc, rfl, (neighbors_of_cell hsize hg hc .topLeft).1.1 rfl, rfl,
    ((neighbors_of_cell hsize hg hc .bottomLeft).2 2 rfl).2.1⟩

end Grid
end ShapePuzzle
