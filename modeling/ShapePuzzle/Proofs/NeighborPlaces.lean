import ShapePuzzle.Grid

/-!
# Places of neighbors

In a grid whose cells stand row by row an index and a position determine each other. So the neighbor in a
direction is another cell, and no two cells have the same neighbor in one direction.
-/
namespace ShapePuzzle

theorem Position.ofIndex_injective (size : Int) {j k : Nat} (h : ofIndex size j = ofIndex size k) : j = k := by
  obtain ⟨hdiv, hmod⟩ := Position.mk.injEq .. ▸ h
  have hj := Int.fmod_add_mul_fdiv j size
  have hk := Int.fmod_add_mul_fdiv k size
  rw [hdiv, hmod, hk] at hj
  omega

namespace Direction

theorem step_injective (d : Direction) {p q : Position} (h : d.step p = d.step q) : p = q := by
  rw [← d.step_opposite p, h, step_opposite]

theorem step_ne (d : Direction) (p : Position) : d.step p ≠ p := by
  obtain ⟨row, col⟩ := p
  cases d <;> simp only [step, offset, ne_eq, Position.mk.injEq] <;> omega

end Direction

namespace Grid
variable {g : Grid} {j k : Nat} {p : Position}

/-- Every cell stands at the position of its index. -/
def RowMajor (g : Grid) : Prop :=
  ∀ ⦃k : Nat⦄ ⦃c : Cell⦄, g.cells[k]? = some c → c.position = .ofIndex g.size k

theorem index?_congr {g' : Grid} (h : g'.size = g.size) (p : Position) : g'.index? p = g.index? p := by
  have hin : g'.inBounds p = g.inBounds p := by simp only [inBounds, h]
  simp only [index?, hin, h]

theorem index?_eq_some (h : g.index? p = some k) :
    0 ≤ p.col ∧ p.col < g.size ∧ (k : Int) = p.row * g.size + p.col ∧ k < g.cells.length := by
  unfold index? at h
  split at h
  · rename_i hin
    simp only [inBounds, Bool.and_eq_true, decide_eq_true_eq] at hin
    obtain ⟨⟨⟨hrow, hrow'⟩, hcol⟩, hcol'⟩ := hin
    have hsize := g.square
    have hpos : 0 ≤ p.row * g.size := Int.mul_nonneg hrow (by omega)
    have hle : (p.row + 1) * g.size ≤ g.size * g.size := Int.mul_le_mul_of_nonneg_right (by omega) (by omega)
    rw [Int.add_mul, Int.one_mul] at hle
    simp only [Option.some.injEq] at h
    omega
  · exact absurd h (by simp)

theorem ofIndex_of_index? (h : g.index? p = some k) : Position.ofIndex g.size k = p := by
  obtain ⟨hcol, hcol', hk, -⟩ := index?_eq_some h
  obtain ⟨row, col⟩ := p
  simp only at hcol hcol' hk
  have hnonneg : 0 ≤ g.size := by omega
  simp only [Position.ofIndex, Position.mk.injEq, hk]
  constructor
  · rw [Int.fdiv_eq_ediv_of_nonneg _ hnonneg, Int.add_comm, Int.add_mul_ediv_right _ _ (by omega),
      Int.ediv_eq_zero_of_lt hcol hcol', Int.zero_add]
  · rw [Int.fmod_eq_emod_of_nonneg _ hnonneg, Int.add_comm, Int.add_mul_emod_self_right,
      Int.emod_eq_of_lt hcol hcol']

theorem exists_cell_of_index? (h : g.index? p = some k) : ∃ c, g.cells[k]? = some c :=
  ⟨_, List.getElem?_eq_getElem (index?_eq_some h).2.2.2⟩

section RowMajor
variable {c c' : Cell} {d : Direction}

theorem neighborIndex?_ne (hg : g.RowMajor) (hc : g.cells[k]? = some c)
    (h : g.neighborIndex? c.position d = some j) : j ≠ k := by
  rintro rfl
  have hpos := ofIndex_of_index? h
  rw [← hg hc] at hpos
  exact d.step_ne c.position hpos.symm

theorem neighborIndex?_injective (hg : g.RowMajor) {k' : Nat} (hc : g.cells[k]? = some c)
    (hc' : g.cells[k']? = some c') (h : g.neighborIndex? c.position d = some j)
    (h' : g.neighborIndex? c'.position d = some j) : k = k' := by
  have hstep : d.step c.position = d.step c'.position := by
    rw [← ofIndex_of_index? h, ← ofIndex_of_index? h']
  have hpos := d.step_injective hstep
  rw [hg hc, hg hc'] at hpos
  exact Position.ofIndex_injective g.size hpos

/-- A cell that keeps its position may take the place of another. -/
theorem rowMajor_put (hg : g.RowMajor) (hc : g.cells[k]? = some c) (hpos : c'.position = c.position) :
    (g.put k c').RowMajor := by
  intro i e he
  rw [cells_put, List.getElem?_set] at he
  split at he
  · rename_i hik
    subst hik
    split at he
    · cases he
      rw [hpos]
      exact hg hc
    · cases he
  · exact hg he

end RowMajor

theorem getElem?_put_self {c c' : Cell} (hc : g.cells[k]? = some c) : (g.put k c').cells[k]? = some c' := by
  obtain ⟨hk, -⟩ := List.getElem?_eq_some_iff.1 hc
  rw [cells_put, List.getElem?_set_self hk]

theorem put_self {c : Cell} (hc : g.cells[k]? = some c) : g.put k c = g := by
  obtain ⟨hk, rfl⟩ := List.getElem?_eq_some_iff.1 hc
  simp only [put, List.set_getElem_self]

theorem getElem?_put_of_ne {c : Cell} (h : j ≠ k) : (g.put k c).cells[j]? = g.cells[j]? := by
  rw [cells_put, List.getElem?_set_ne (Ne.symm h)]

end Grid
end ShapePuzzle
