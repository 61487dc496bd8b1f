import ShapePuzzle.Proofs.ValueEquality

/-!
# Regions along the edges

A region is the rows or columns next to an edge. One that is not as deep as the grid is wide covers a corner at
its edge and leaves out a corner across.
-/
namespace ShapePuzzle

/-- A position on grids of the size. -/
def Position.On (size : Int) (p : Position) : Prop :=
  (0 ≤ p.row ∧ p.row < size) ∧ (0 ≤ p.col ∧ p.col < size)

namespace Edge
variable {size depth : Int} {e : Edge}

/-- Whether the rows or columns next to the edge, to a depth, contain a position. -/
def covers (size depth : Int) (p : Position) : Edge → Bool
  | left => p.col < depth
  | right => size - depth ≤ p.col
  | top => p.row < depth
  | bottom => size - depth ≤ p.row

theorem isInRegion_eq (e : Edge) (p : Position) (depth size : Int) :
    isInRegion p (.text e.name) (.int depth) size = .ok (e.covers size depth p) := by
  have hedge : isInRegion p (.text e.name) (.int depth) size = e.reaches p (.int depth) size := by
    simp only [isInRegion, ofValue_name]
    rfl
  rw [hedge]
  cases e <;>
    simp [reaches, nearStart, nearEnd, demand, covers, Value.int_lt?, Value.int_ge?, Value.number?, Number.sub?]

/-- A corner at the edge. -/
def corner (size : Int) : Edge → Position
  | left | top => ⟨0, 0⟩
  | right => ⟨0, size - 1⟩
  | bottom => ⟨size - 1, 0⟩

/-- A corner across from the edge. -/
def across (size : Int) : Edge → Position
  | left => ⟨0, size - 1⟩
  | top => ⟨size - 1, 0⟩
  | right | bottom => ⟨0, 0⟩

theorem on_corner (hsize : 0 < size) : (e.corner size).On size := by
  cases e <;> simp only [corner, Position.On] <;> omega

theorem on_across (hsize : 0 < size) : (e.across size).On size := by
  cases e <;> simp only [across, Position.On] <;> omega

theorem covers_corner (hdepth : 0 < depth) : e.covers size depth (e.corner size) = true := by
  have hfar : size - depth ≤ size - 1 := by omega
  cases e with
  | left => exact decide_eq_true hdepth
  | right => exact decide_eq_true hfar
  | top => exact decide_eq_true hdepth
  | bottom => exact decide_eq_true hfar

theorem covers_across (hdepth : depth < size) : e.covers size depth (e.across size) = false := by
  have hnear : ¬ size - 1 < depth := by omega
  have hfar : ¬ size - depth ≤ 0 := by omega
  cases e with
  | left => exact decide_eq_false hnear
  | right => exact decide_eq_false hfar
  | top => exact decide_eq_false hnear
  | bottom => exact decide_eq_false hfar

end Edge
end ShapePuzzle
