import ShapePuzzle.Proofs.EnforcementLog
import ShapePuzzle.Proofs.NeighborPlaces
import ShapePuzzle.Template.Basic

/-!
# Random grids

A random grid has the size asked for, its cells stand row by row and every property has a value of its domain.
-/
namespace ShapePuzzle
variable {σ : Type} {st st' : σ × Luck}

namespace Grid

/-- Every cell has values of the domains. -/
def Ordinary (g : Grid) : Prop := ∀ c ∈ g.cells, c.Ordinary

private theorem randomCell_spec {position : Position} {c : Cell}
    (h : (randomCell position : Turn σ Cell) st = .ok c st') : c.position = position ∧ c.Ordinary := by
  obtain ⟨shape, st₁, hshape, h⟩ := Turn.bind_eq_ok.1 h
  obtain ⟨color, st₂, hcolor, h⟩ := Turn.bind_eq_ok.1 h
  obtain ⟨number, st₃, hnumber, h⟩ := Turn.bind_eq_ok.1 h
  obtain ⟨rfl, rfl⟩ := Turn.pure_eq_ok.1 h
  refine ⟨rfl, fun p => ?_⟩
  cases p with
  | shape => exact (pick_spec hshape).1
  | color => exact (pick_spec hcolor).1
  | number => exact (pick_spec hnumber).1

private theorem silent_randomCell (position : Position) : Turn.Silent (randomCell position : Turn σ Cell) :=
  .bind (silent_pick _) fun _ => .bind (silent_pick _) fun _ => .bind (silent_pick _) fun _ => .pure _

private theorem randomCells_spec {size : Int} {ks : List Nat} {cs : List Cell}
    (h : (randomCells size ks : Turn σ (List Cell)) st = .ok cs st') :
    cs.map Cell.position = ks.map (Position.ofIndex size) ∧ ∀ c ∈ cs, c.Ordinary := by
  induction ks generalizing st cs with
  | nil =>
    obtain ⟨rfl, rfl⟩ := Turn.pure_eq_ok.1 h
    exact ⟨rfl, by simp⟩
  | cons k ks ih =>
    obtain ⟨c, st₁, hc, h⟩ := Turn.bind_eq_ok.1 h
    obtain ⟨rest, st₂, hrest, h⟩ := Turn.bind_eq_ok.1 h
    obtain ⟨rfl, rfl⟩ := Turn.pure_eq_ok.1 h
    obtain ⟨hpos, hordinary⟩ := randomCell_spec hc
    obtain ⟨hposs, hall⟩ := ih hrest
    exact ⟨by rw [List.map_cons, List.map_cons, hpos, hposs], List.forall_mem_cons.2 ⟨hordinary, hall⟩⟩

private theorem silent_randomCells (size : Int) (ks : List Nat) :
    Turn.Silent (randomCells size ks : Turn σ (List Cell)) := by
  induction ks with
  | nil => exact .pure _
  | cons k ks ih => exact .bind (silent_randomCell _) fun _ => .bind ih fun _ => .pure _

theorem random_spec {size : Int} {g : Grid} (h : (random size : Turn σ Grid) st = .ok g st') :
    g.size = size ∧ g.RowMajor ∧ g.Ordinary := by
  obtain ⟨cs, st₁, hcs, h⟩ := Turn.bind_eq_ok.1 h
  obtain ⟨hpos, hordinary⟩ := randomCells_spec hcs
  obtain ⟨hg, -⟩ := Turn.ofExcept_eq_ok.1 h
  unfold ofCells at hg
  split at hg
  · cases hg
    refine ⟨rfl, fun k c hc => ?_, hordinary⟩
    have hk : (cs.map Cell.position)[k]? = some c.position := by rw [List.getElem?_map, hc, Option.map_some]
    rw [hpos, List.getElem?_map, Option.map_eq_some_iff] at hk
    obtain ⟨j, hj, hjc⟩ := hk
    obtain ⟨hlt, rfl⟩ := List.getElem?_eq_some_iff.1 hj
    rw [← hjc, List.getElem_range]
  · cases hg

theorem silent_random (size : Int) : Turn.Silent (random size : Turn σ Grid) :=
  .bind (silent_randomCells _ _) fun _ => .ofExcept _

end Grid

namespace Template

theorem shapeGrid_true (t : Template) (details : Details) :
    t.shapeGrid true details = Rule.enforceAll details t.rules := by
  simp [shapeGrid]

/-- A grid on which the statement is to hold is a random grid on which the rules were enforced. -/
theorem buildGrid_true_spec {t : Template} {size : Int} {details : Details} {g : Grid}
    (h : (t.buildGrid size true details : Turn σ Grid) st = .ok g st') :
    ∃ start luck, start.size = size ∧ start.RowMajor ∧ start.Ordinary ∧ luck.warnings = st.2.warnings ∧
      (Rule.enforceAll details t.rules) (start, luck) = .ok () (g, st'.2) := by
  obtain ⟨start, st₁, hstart, h⟩ := Turn.bind_eq_ok.1 h
  obtain ⟨⟨u, g'⟩, st₂, haside, h⟩ := Turn.bind_eq_ok.1 h
  obtain ⟨rfl, rfl⟩ := Turn.pure_eq_ok.1 h
  obtain ⟨luck, hrun, rfl⟩ := Turn.aside_eq_ok.1 haside
  rw [shapeGrid_true] at hrun
  obtain ⟨hsize, hrow, hordinary⟩ := Grid.random_spec hstart
  exact ⟨start, st₁.2, hsize, hrow, hordinary, (Grid.silent_random size).warnings_eq hstart, hrun⟩

theorem logs_buildGrid_true (t : Template) (size : Int) (details : Details) :
    Turn.Logs Warning.OfEnforcement (t.buildGrid size true details : Turn σ Grid) := by
  refine .bind (.of_silent (Grid.silent_random size)) fun start => .bind (.aside ?_) fun _ => .pure _
  rw [shapeGrid_true]
  exact Rule.logs_enforceAll details t.rules

end Template
end ShapePuzzle
