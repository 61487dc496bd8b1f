import ShapePuzzle.Proofs.GridDomains
import ShapePuzzle.Proofs.RuleSequences

/-!
# Where a violation changes the grid

Violating an implication changes one cell, which then is the only one to fail, and where the violation is skipped
or stops with a fault it changes none. Violating a requirement changes one cell and its neighbor. If the neighbor of
a witness was spoilt in vain before, it stays so as well, even where the violation is skipped.
-/
namespace ShapePuzzle

/-- The grids have cells at the same positions, and the same ones but where they may differ. -/
structure Grid.DiffersOnly (P : Nat → Prop) (g g' : Grid) : Prop where
  size_eq : g'.size = g.size
  positions : g'.cells.map (·.position) = g.cells.map (·.position)
  same : ∀ k, ¬ P k → g'.cells[k]? = g.cells[k]?

namespace Grid.DiffersOnly
variable {P : Nat → Prop} {g g₁ g' : Grid} {k : Nat} {c c' : Cell}

theorem refl (P : Nat → Prop) (g : Grid) : g.DiffersOnly P g := ⟨rfl, rfl, fun _ _ => rfl⟩

theorem trans (h : g.DiffersOnly P g₁) (h' : g₁.DiffersOnly P g') : g.DiffersOnly P g' :=
  ⟨h'.size_eq.trans h.size_eq, h'.positions.trans h.positions, fun k hk => (h'.same k hk).trans (h.same k hk)⟩

/-- A cell that keeps its position may take the place of another. -/
theorem put (hk : P k) (hc : g.cells[k]? = some c) (hpos : c'.position = c.position) :
    g.DiffersOnly P (g.put k c') where
  size_eq := rfl
  positions := by
    obtain ⟨hlt, rfl⟩ := List.getElem?_eq_some_iff.1 hc
    rw [cells_put, List.map_set, hpos, ← List.getElem_map (fun c : Cell => c.position) (h := by simpa using hlt),
      List.set_getElem_self]
  same j hj := getElem?_put_of_ne (by rintro rfl; exact hj hk)

end Grid.DiffersOnly

namespace Rule

/-- The rule fails on one cell and holds on all others. -/
def FailsOnlyAt (rule : Rule) (details : Details) (g : Grid) (k : Nat) : Prop :=
  (∃ c, g.cells[k]? = some c ∧ rule.holdsOn details g c = .ok false) ∧
    ∀ j c, j ≠ k → g.cells[j]? = some c → rule.holdsOn details g c = .ok true

end Rule

namespace Implication
variable {r : Implication} {details : Details} {g g' : Grid}

/-- The verdict on a cell is its own, so replacing one cell leaves the others as they were judged. -/
theorem Violated.failsOnlyAt (h : r.Violated details g g') :
    ∃ k, g.DiffersOnly (· = k) g' ∧
      ((Rule.implication r).verify details g = .ok true → (Rule.implication r).FailsOnlyAt details g' k) := by
  obtain ⟨k, cell, found, hcell, ⟨hpos, hfalse⟩, rfl⟩ := h
  refine ⟨k, .put rfl hcell hpos, fun hverify => ⟨⟨found, Grid.getElem?_put_self hcell, hfalse⟩, ?_⟩⟩
  intro j c hj hc
  rw [Grid.getElem?_put_of_ne hj] at hc
  exact allM_eq_ok_true.1 hverify c (List.mem_of_getElem? hc)

/-- Violating an implication changes at most one cell. If the violation is skipped or stops with a fault the grid is
as before, and else that cell alone fails afterwards where none did before. -/
theorem one_cell_of_violate (r : Implication) (details : Details) (g : Grid) (luck : Luck) :
    (∀ g' luck', (r.violate details) (g, luck) = .ok () (g', luck') →
      ∃ k, g.DiffersOnly (· = k) g' ∧ (.implicationKept ∈ luck.news luck' → g' = g) ∧
        ((Rule.implication r).verify details g = .ok true → .implicationKept ∉ luck.news luck' →
          (Rule.implication r).FailsOnlyAt details g' k)) ∧
      ∀ e g' luck', (r.violate details) (g, luck) = .error e (g', luck') → g' = g := by
  have hmeets := r.meets_violate details (g, luck)
  refine ⟨fun g' luck' hrun => ?_, fun e g' luck' hrun => hmeets.error hrun⟩
  rcases hmeets.ok hrun with ⟨hviolated, hquiet⟩ | ⟨rfl, hwarn⟩
  · obtain ⟨k, hdiffers, hfails⟩ := hviolated.failsOnlyAt
    have hnews : luck.news luck' = [] := by
      dsimp only at hquiet
      simp [Luck.news, hquiet]
    refine ⟨k, hdiffers, fun hkept => ?_, fun hverify _ => hfails hverify⟩
    rw [hnews] at hkept
    cases hkept
  · refine ⟨0, .refl _ g', fun _ => rfl, fun _ hkept => absurd ?_ hkept⟩
    dsimp only at hwarn
    simp [Luck.news, hwarn]

/-- Every cell stands in the first two columns. -/
def allLeft : Implication where
  antecedent := none
  actions := [.requireRegion (.constant (.text "left")) (.number (.int 2))]
  breakAntecedent := none
  violation := none

/-- A green circle turns pink, cells that cannot leave their columns are as before, and so is a circle that was to be
a square with a color that no detail tells. -/
theorem one_cell_of_violate_circles :
    (∃ g' luck' k, (circlesGreen.violate [])
        (Requirement.pairOfRows ("circle", "#7ed957") ("square", "#ff82a9"), .start fun _ => 0) = .ok () (g', luck') ∧
      (Requirement.pairOfRows ("circle", "#7ed957") ("square", "#ff82a9")).DiffersOnly (· = k) g' ∧
      (Rule.implication circlesGreen).FailsOnlyAt [] g' k) ∧
    (∃ g' luck', (allLeft.violate [])
        (Requirement.pairOfRows ("circle", "#7ed957") ("square", "#ff82a9"), .start fun _ => 0) = .ok () (g', luck') ∧
      luck'.warnings = [.implicationKept] ∧
      g' = Requirement.pairOfRows ("circle", "#7ed957") ("square", "#ff82a9")) ∧
    ∃ g' luck', (squaresTake.violate [])
        (Requirement.pairOfRows ("circle", "#7ed957") ("circle", "#ff82a9"), .start fun _ => 1) =
          .error (.unresolved "tone") (g', luck') ∧
      g' = Requirement.pairOfRows ("circle", "#7ed957") ("circle", "#ff82a9") := by
  refine ⟨?_, ?_, ?_⟩
  · obtain ⟨_, g', luck', hrun, hluck⟩ := Turn.exists_of_returnsQuietly (circlesGreen.violate [])
      (Requirement.pairOfRows ("circle", "#7ed957") ("square", "#ff82a9"), .start fun _ => 0) rfl
    obtain ⟨k, hdiffers, -, hfails⟩ := (one_cell_of_violate _ _ _ _).1 _ _ hrun
    exact ⟨g', luck', k, hrun, hdiffers, hfails rfl (by simp [Luck.news, hluck])⟩
  · obtain ⟨g', luck', hrun, hluck⟩ : ∃ g' luck', (allLeft.violate [])
        (Requirement.pairOfRows ("circle", "#7ed957") ("square", "#ff82a9"), .start fun _ => 0) = .ok () (g', luck') ∧
        luck'.warnings = [.implicationKept] := ⟨_, _, rfl, rfl⟩
    obtain ⟨k, -, hkept, -⟩ := (one_cell_of_violate _ _ _ _).1 _ _ hrun
    exact ⟨g', luck', hrun, hluck, hkept (by simp [Luck.news, Luck.start, hluck])⟩
  · obtain ⟨g', luck', hrun⟩ : ∃ g' luck', (squaresTake.violate [])
        (Requirement.pairOfRows ("circle", "#7ed957") ("circle", "#ff82a9"), .start fun _ => 1) =
          .error (.unresolved "tone") (g', luck') := ⟨_, _, rfl⟩
    exact ⟨g', luck', hrun, (one_cell_of_violate _ _ _ _).2 _ _ _ hrun⟩

end Implication

namespace Requirement
variable {r : Requirement} {details : Details} {g g₁ g' : Grid} {k : Nat}

/-- The place itself, or that of the neighbor of the cell which stands there. -/
def Near (r : Requirement) (details : Details) (g : Grid) (k i : Nat) : Prop :=
  i = k ∨ ∃ cell, g.cells[k]? = some cell ∧ r.neighborIndex? details g cell = .ok (some i)

theorem Violated.differsOnly (hg : g.RowMajor) (h : r.Violated details g g') :
    ∃ k, g.DiffersOnly (r.Near details g' k) g' := by
  cases h with
  | @spoilt cell neighbor spoilt k j hcell hx hpos _ =>
    obtain ⟨hindex, hn⟩ := neighbor?_eq_ok_some.1 hx
    have hkept : (g.put j spoilt).cells[k]? = some cell := by
      rw [Grid.getElem?_put_of_ne (neighbor_ne hg hcell hindex).symm, hcell]
    exact ⟨k, .put (.inr ⟨cell, hkept, hindex⟩) hn hpos⟩
  | @alone cell forced k hcell hpos _ _ => exact ⟨k, .put (.inl rfl) hcell hpos⟩
  | @forced cell forced neighbor spoilt k j hcell hpos _ hx hposSpoilt _ =>
    obtain ⟨hindex, hn⟩ := neighbor?_eq_ok_some.1 hx
    have hjk := neighbor_ne_of_position hg hcell hpos hindex
    have hforced : ((g.put k forced).put j spoilt).cells[k]? = some forced := by
      rw [Grid.getElem?_put_of_ne hjk.symm, Grid.getElem?_put_self hcell]
    have hn' : (g.put k forced).cells[j]? = some neighbor := by rw [Grid.getElem?_put_of_ne hjk, hn]
    exact ⟨k, (Grid.DiffersOnly.put (.inl rfl) hcell hpos).trans (.put (.inr ⟨forced, hforced, hindex⟩) hn' hposSpoilt)⟩

/-- Whatever the luck, the declared violation makes the requirement fail on every witness it is tried on. -/
def SpoilsAll (r : Requirement) (details : Details) (g : Grid) : Prop :=
  ∀ ⦃cell neighbor spoilt : Cell⦄ ⦃k j : Nat⦄ ⦃spoil : NeighborAction⦄ ⦃status : Status⦄ ⦃luck luck' : Luck⦄,
    g.cells[k]? = some cell → r.Witness details g cell neighbor j → r.neighbor.violation = some spoil →
      (spoil.apply cell details g.size) (neighbor, luck) = .ok status (spoilt, luck') →
        r.holdsOn details (g.put j spoilt) cell = .ok false

theorem SpoilsAll.untouched (hr : r.SpoilsAll details g) (h : r.Attempted details g g') : g' = g := by
  cases h with
  | untouched => rfl
  | futile hcell hwitness hv hrun hne => exact absurd (hr hcell hwitness hv hrun) hne

/-- Violating a requirement changes at most one cell and its neighbor on the grid that an attempt at a witness has left,
and none if it is skipped or stops with a fault. If no witness withstands being spoilt, that is the grid there was. -/
theorem near_of_violate (r : Requirement) (details : Details) (g : Grid) (luck : Luck) (hg : g.RowMajor) :
    (∀ g' luck', (r.violate details) (g, luck) = .ok () (g', luck') → ∃ g₁, r.Attempted details g g₁ ∧
      (∃ k, g₁.DiffersOnly (r.Near details g' k) g') ∧ (.requirementKept ∈ luck.news luck' → g' = g₁)) ∧
    (∀ e g' luck', (r.violate details) (g, luck) = .error e (g', luck') → r.Attempted details g g') ∧
    (r.SpoilsAll details g →
      (∀ g' luck', (r.violate details) (g, luck) = .ok () (g', luck') →
        (∃ k, g.DiffersOnly (r.Near details g' k) g') ∧ (.requirementKept ∈ luck.news luck' → g' = g)) ∧
      ∀ e g' luck', (r.violate details) (g, luck) = .error e (g', luck') → g' = g) := by
  have hmeets := r.meets_violate details (show (g, luck).1.RowMajor from hg)
  have hok : ∀ g' luck', (r.violate details) (g, luck) = .ok () (g', luck') → ∃ g₁, r.Attempted details g g₁ ∧
      (∃ k, g₁.DiffersOnly (r.Near details g' k) g') ∧ (.requirementKept ∈ luck.news luck' → g' = g₁) := by
    intro g' luck' hrun
    obtain ⟨g₁, hattempted, ⟨hviolated, hquiet⟩ | ⟨hsame, -⟩⟩ := hmeets.ok hrun
    · refine ⟨g₁, hattempted, hviolated.differsOnly (hattempted.rowMajor hg), fun hkept => ?_⟩
      dsimp only at hquiet
      simp [Luck.news, hquiet] at hkept
    · dsimp only at hsame
      subst hsame
      exact ⟨g', hattempted, ⟨0, .refl _ g'⟩, fun _ => rfl⟩
  have herror : ∀ e g' luck', (r.violate details) (g, luck) = .error e (g', luck') → r.Attempted details g g' :=
    fun e g' luck' hrun => hmeets.error hrun
  -- no attempt is futile, so what it leaves is the grid there was
  refine ⟨hok, herror, fun hspoils => ⟨fun g' luck' hrun => ?_, fun e g' luck' hrun => ?_⟩⟩
  · obtain ⟨g₁, hattempted, hlocal⟩ := hok g' luck' hrun
    rw [hspoils.untouched hattempted] at hlocal
    exact hlocal
  · exact hspoils.untouched (herror e g' luck' hrun)

/-- A green neighbor that turns pink is not what a circle needs. -/
private theorem spoilsAll_circlesNeedGreen : circlesNeedGreen.SpoilsAll [] g := by
  intro cell neighbor spoilt k j spoil status luck luck' hcell hwitness hv hrun
  cases hv
  obtain rfl : spoilt = neighbor.set .color (.text "#ff82a9") := by
    cases hrun
    rfl
  obtain ⟨hindex, hn⟩ := neighbor?_eq_ok_some.1 hwitness.beside
  exact holdsOn_eq_ok_false hwitness.antecedent (.inr ⟨_, j, neighbor?_eq_ok_some.2
    ⟨hindex, Grid.getElem?_put_self hn⟩, rfl⟩)

/-- The green cell beside a circle turns pink, and no other cell changes. -/
theorem near_of_violate_circlesNeedGreen : ∃ g' luck' k, (circlesNeedGreen.violate [])
      (pairOfRows ("circle", "#ff82a9") ("square", "#7ed957"), .start fun _ => 0) = .ok () (g', luck') ∧
    g' ≠ pairOfRows ("circle", "#ff82a9") ("square", "#7ed957") ∧
    (pairOfRows ("circle", "#ff82a9") ("square", "#7ed957")).DiffersOnly (circlesNeedGreen.Near [] g' k) g' := by
  obtain ⟨g', luck', hrun, hcolors⟩ : ∃ g' luck', (circlesNeedGreen.violate [])
      (pairOfRows ("circle", "#ff82a9") ("square", "#7ed957"), .start fun _ => 0) = .ok () (g', luck') ∧
      g'.cells.map (·.color) = ["#ff82a9", "#ff82a9", "#ff82a9", "#7ed957"].map .text := ⟨_, _, rfl, rfl⟩
  have hrow := rowMajor_pairOfRows ("circle", "#ff82a9") ("square", "#7ed957")
  obtain ⟨⟨k, hdiffers⟩, -⟩ := ((near_of_violate _ _ _ _ hrow).2.2 spoilsAll_circlesNeedGreen).1 _ _ hrun
  refine ⟨g', luck', k, hrun, ?_, hdiffers⟩
  rintro rfl
  simp [pairOfRows] at hcolors

/-- What stands in the first column is to have a circle on its right, whose color is all that the violation changes. -/
def firstColumnNeedsCircle : Requirement where
  antecedent := some (.inRegion (.constant (.text "left")) (.number (.int 1)))
  neighbor := {
    direction := .constant (.text "right")
    conditions := [.compare .equals (.neighborProperty .shape) (.constant (.text "circle"))]
    satisfy := [.set .shape (.constant (.text "circle"))]
    violation := some (.set .color (.constant (.text "#7ed957"))) }
  breakAntecedent := none

/-- The violation is said to be skipped, and a circle has turned green. -/
theorem changed_though_skipped : (pairOfRows ("circle", "#ff82a9") ("circle", "#ff82a9")).RowMajor ∧
    ∃ g' luck', (firstColumnNeedsCircle.violate [])
      (pairOfRows ("circle", "#ff82a9") ("circle", "#ff82a9"), .start fun _ => 0) = .ok () (g', luck') ∧
    luck'.warnings = [.requirementKept] ∧ g' ≠ pairOfRows ("circle", "#ff82a9") ("circle", "#ff82a9") := by
  obtain ⟨g', luck', hrun, hwarn, hcolors⟩ : ∃ g' luck', (firstColumnNeedsCircle.violate [])
      (pairOfRows ("circle", "#ff82a9") ("circle", "#ff82a9"), .start fun _ => 0) = .ok () (g', luck') ∧
      luck'.warnings = [.requirementKept] ∧
      g'.cells.map (·.color) = ["#ff82a9", "#7ed957", "#ff82a9", "#ff82a9"].map .text := ⟨_, _, rfl, rfl, rfl⟩
  refine ⟨rowMajor_pairOfRows _ _, g', luck', hrun, hwarn, ?_⟩
  rintro rfl
  simp [pairOfRows] at hcolors

end Requirement
end ShapePuzzle
