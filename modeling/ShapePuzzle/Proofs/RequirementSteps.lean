import ShapePuzzle.Proofs.EnforcementLog
import ShapePuzzle.Proofs.NeighborPlaces

/-!
# Turns of a requirement

When a requirement holds on a cell, what a turn at a cell may do to the grid if it logs nothing, and that it
makes the requirement hold there.
-/
namespace ShapePuzzle

namespace Requirement
variable {r : Requirement} {details : Details} {g g' : Grid} {i j k : Nat} {cell cell' neighbor : Cell}

/-- What the actions on the neighbor may change. -/
def satisfyWrites (r : Requirement) (p : Property) : Prop :=
  ∃ a ∈ r.neighbor.satisfy, a.writes p = true

/-- The direction is the same for all cells. -/
def Straight (r : Requirement) : Prop := ∀ p, r.neighbor.direction ≠ .cellProperty p

/-- The requirement holds on the cell of an index. -/
def SatisfiedAt (r : Requirement) (details : Details) (g : Grid) (k : Nat) : Prop :=
  ∀ cell, g.cells[k]? = some cell → r.holdsOn details g cell = .ok true

theorem neighborIndex?_eq_ok {x : Option Nat} :
    r.neighborIndex? details g cell = .ok x ↔
      ∃ v d, r.neighbor.direction.resolve (cell.context details g.size) = .ok v ∧ Direction.ofValue v = .ok d ∧
        g.neighborIndex? cell.position d = x := by
  simp only [neighborIndex?, except_bind_eq_ok, except_pure_eq_ok]
  constructor
  · rintro ⟨v, hv, d, hd, hx⟩
    exact ⟨v, d, hv, hd, hx⟩
  · rintro ⟨v, d, hv, hd, hx⟩
    exact ⟨v, hv, d, hd, hx⟩

theorem neighbor?_eq_ok_some :
    r.neighbor? details g cell = .ok (some (neighbor, j)) ↔
      r.neighborIndex? details g cell = .ok (some j) ∧ g.cells[j]? = some neighbor := by
  simp only [neighbor?, except_bind_eq_ok]
  constructor
  · rintro ⟨x, hx, h⟩
    cases x with
    | none => cases h
    | some m =>
      simp only [except_pure_eq_ok, Option.map_eq_some_iff, Prod.mk.injEq] at h
      obtain ⟨n, hn, rfl, rfl⟩ := h
      exact ⟨hx, hn⟩
  · rintro ⟨hx, hn⟩
    refine ⟨some j, hx, ?_⟩
    simp only [hn, Option.map_some, except_pure_eq_ok]

/-- A requirement holds where the antecedent fails, and where the neighbor meets the conditions. -/
theorem holdsOn_eq_ok_true :
    r.holdsOn details g cell = .ok true ↔
      Condition.evaluate? (cell.context details g.size) r.antecedent = .ok false ∨
        Condition.evaluate? (cell.context details g.size) r.antecedent = .ok true ∧
          ∃ neighbor j, r.neighbor? details g cell = .ok (some (neighbor, j)) ∧
            r.conditionsHold details g.size cell neighbor = .ok true := by
  simp only [holdsOn, except_bind_eq_ok]
  constructor
  · rintro ⟨b, hb, h⟩
    cases b with
    | false => exact .inl hb
    | true =>
      obtain ⟨x, hx, h⟩ := except_bind_eq_ok.1 h
      cases x with
      | none => cases h
      | some p => exact .inr ⟨hb, p.1, p.2, hx, h⟩
  · rintro (hb | ⟨hb, n, j, hx, h⟩)
    · exact ⟨false, hb, rfl⟩
    · exact ⟨true, hb, except_bind_eq_ok.2 ⟨_, hx, h⟩⟩

theorem holdsOn_of_antecedent_false
    (h : Condition.evaluate? (cell.context details g.size) r.antecedent = .ok false) :
    r.holdsOn details g cell = .ok true :=
  holdsOn_eq_ok_true.2 (.inl h)

theorem conditionsHold_congr {n n' : Cell} {size : Int}
    (hcell : ∀ c ∈ r.neighbor.conditions, cell.AgreeOn (c.reads ·) cell')
    (hn : ∀ c ∈ r.neighbor.conditions, ∀ p, c.readsNeighbor p = true → n.get p = n'.get p) :
    r.conditionsHold details size cell n = .ok true ↔ r.conditionsHold details size cell' n' = .ok true := by
  simp only [conditionsHold, allM_eq_ok_true]
  refine forall₂_congr fun c hc => ?_
  have hctx : Context.AgreeOn (c.reads ·) (c.readsNeighbor ·) (cell.contextWith n details size)
      (cell'.contextWith n' details size) := ⟨rfl, rfl, .some (hcell c hc), .some (hn c hc)⟩
  rw [Condition.evaluate_congr hctx c c.within_self]

private theorem resolve_straight (hr : r.Straight) (cell cell' : Cell) (size : Int) :
    r.neighbor.direction.resolve (cell.context details size) =
      r.neighbor.direction.resolve (cell'.context details size) := by
  cases hd : r.neighbor.direction with
  | cellProperty p => exact absurd hd (hr p)
  | _ => rfl

theorem neighborIndex?_congr (hr : r.Straight) (hsize : g'.size = g.size) (hpos : cell'.position = cell.position) :
    r.neighborIndex? details g' cell' = r.neighborIndex? details g cell := by
  have hindex : ∀ d, g'.neighborIndex? cell'.position d = g.neighborIndex? cell.position d := by
    intro d
    rw [Grid.neighborIndex?, Grid.neighborIndex?, hpos, Grid.index?_congr hsize]
  simp only [neighborIndex?, hsize, hindex, resolve_straight hr cell' cell]

theorem neighbor_ne (hg : g.RowMajor) (hc : g.cells[k]? = some cell)
    (h : r.neighborIndex? details g cell = .ok (some j)) : j ≠ k := by
  obtain ⟨v, d, -, -, hj⟩ := neighborIndex?_eq_ok.1 h
  exact Grid.neighborIndex?_ne hg hc hj

theorem neighbor_injective (hr : r.Straight) (hg : g.RowMajor) (hc : g.cells[k]? = some cell)
    (hc' : g.cells[i]? = some cell') (h : r.neighborIndex? details g cell = .ok (some j))
    (h' : r.neighborIndex? details g cell' = .ok (some j)) : k = i := by
  obtain ⟨v, d, hv, hd, hj⟩ := neighborIndex?_eq_ok.1 h
  obtain ⟨v', d', hv', hd', hj'⟩ := neighborIndex?_eq_ok.1 h'
  rw [resolve_straight hr cell cell' g.size, hv'] at hv
  cases hv
  rw [hd'] at hd
  cases hd
  exact Grid.neighborIndex?_injective hg hc hc' hj hj'

/-- What a turn at the cell of an index may do to the grid if it logs nothing. -/
inductive Step (r : Requirement) (details : Details) (k : Nat) (g : Grid) : Grid → Prop
  | idle {cell : Cell} : g.cells[k]? = some cell →
      Condition.evaluate? (cell.context details g.size) r.antecedent = .ok false → Step r details k g g
  | satisfied {cell neighbor neighbor' : Cell} {j : Nat} : g.cells[k]? = some cell →
      Condition.evaluate? (cell.context details g.size) r.antecedent = .ok true →
      r.neighbor? details g cell = .ok (some (neighbor, j)) →
      neighbor.AgreeOn (fun p => ¬ r.satisfyWrites p) neighbor' →
      r.conditionsHold details g.size cell neighbor' = .ok true → Step r details k g (g.put j neighbor')
  | alone {cell cell' : Cell} : g.cells[k]? = some cell →
      Condition.evaluate? (cell.context details g.size) r.antecedent = .ok true →
      r.neighbor? details g cell = .ok none →
      cell.AgreeOn (fun p => ¬ breakWrites r.antecedent r.breakAntecedent p) cell' →
      Condition.evaluate? (cell'.context details g.size) r.antecedent = .ok false →
      Step r details k g (g.put k cell')
  | failed {cell cell' neighbor neighbor' : Cell} {j : Nat} {done : Bool} {luck luck' : Luck} :
      g.cells[k]? = some cell →
      Condition.evaluate? (cell.context details g.size) r.antecedent = .ok true →
      r.neighbor? details g cell = .ok (some (neighbor, j)) →
      (satisfyNeighbor cell details g.size r.neighbor.satisfy) (neighbor, luck) = .ok done (neighbor', luck') →
      (done = true → r.conditionsHold details g.size cell neighbor' = .ok false) →
      cell.AgreeOn (fun p => ¬ breakWrites r.antecedent r.breakAntecedent p) cell' →
      Condition.evaluate? (cell'.context details g.size) r.antecedent = .ok false →
      Step r details k g ((g.put j neighbor').put k cell')

/-- What working on the neighbor comes to: there is none, it is left as the conditions want it, or it is left
as the actions made it. -/
private theorem satisfy_spec {luck luck' : Luck} {done : Bool}
    (h : (r.satisfy details cell) (g, luck) = .ok done (g', luck')) :
    r.neighbor? details g cell = .ok none ∧ done = false ∧ g' = g ∨
      ∃ neighbor j neighbor' applied luck₁, r.neighbor? details g cell = .ok (some (neighbor, j)) ∧
        (satisfyNeighbor cell details g.size r.neighbor.satisfy) (neighbor, luck) = .ok applied (neighbor', luck₁) ∧
        g' = g.put j neighbor' ∧
        (applied = true → r.conditionsHold details g.size cell neighbor' = .ok done) ∧
        (applied = false → done = false) := by
  obtain ⟨_, _, hs, h⟩ := Turn.bind_eq_ok.1 h
  obtain ⟨rfl, rfl⟩ := Turn.subject_eq_ok.1 hs
  obtain ⟨x, _, hxrun, h⟩ := Turn.bind_eq_ok.1 h
  obtain ⟨hx, rfl⟩ := Turn.ofExcept_eq_ok.1 hxrun
  cases x with
  | none =>
    obtain ⟨rfl, h⟩ := Turn.pure_eq_ok.1 h
    cases h
    exact .inl ⟨hx, rfl, rfl⟩
  | some p =>
    obtain ⟨neighbor, j⟩ := p
    obtain ⟨-, hj⟩ := neighbor?_eq_ok_some.1 hx
    obtain ⟨y, _, hy, h⟩ := Turn.bind_eq_ok.1 h
    rcases Turn.atCell_spec hy with ⟨hnone, -, -⟩ | ⟨n, applied, neighbor', luck₁, hn, hrun, rfl, rfl⟩
    · rw [hj] at hnone
      cases hnone
    · rw [hj] at hn
      cases hn
      refine .inr ⟨neighbor, j, neighbor', applied, luck₁, hx, hrun, ?_⟩
      cases applied with
      | false =>
        obtain ⟨rfl, h⟩ := Turn.pure_eq_ok.1 h
        cases h
        exact ⟨rfl, nofun, fun _ => rfl⟩
      | true =>
        obtain ⟨_, _, hs, h⟩ := Turn.bind_eq_ok.1 h
        obtain ⟨rfl, rfl⟩ := Turn.subject_eq_ok.1 hs
        simp only [Grid.getElem?_put_self hj] at h
        obtain ⟨hdone, h⟩ := Turn.ofExcept_eq_ok.1 h
        cases h
        exact ⟨rfl, fun _ => hdone, nofun⟩

/-- A turn that logs nothing is a step. -/
theorem step_of_enforceCell (hg : g.RowMajor) (hcell : g.cells[k]? = some cell) {luck luck' : Luck} {u : Unit}
    (h : (r.enforceCell details k cell) (g, luck) = .ok u (g', luck')) (hquiet : luck'.warnings = luck.warnings) :
    Step r details k g g' := by
  obtain ⟨_, _, hs, h⟩ := Turn.bind_eq_ok.1 h
  obtain ⟨rfl, rfl⟩ := Turn.subject_eq_ok.1 hs
  obtain ⟨b, _, hbrun, h⟩ := Turn.bind_eq_ok.1 h
  obtain ⟨hb, rfl⟩ := Turn.ofExcept_eq_ok.1 hbrun
  cases b with
  | false =>
    obtain ⟨-, h⟩ := Turn.pure_eq_ok.1 h
    cases h
    exact .idle hcell hb
  | true =>
    obtain ⟨done, ⟨g₁, luck₁⟩, hdone, h⟩ := Turn.bind_eq_ok.1 h
    have hlog := (silent_satisfy r details cell).warnings_eq hdone
    have hcell₁ : g₁.cells[k]? = some cell := by
      rcases satisfy_spec hdone with ⟨-, -, rfl⟩ | ⟨n, j, n', -, -, hx, -, rfl, -⟩
      · exact hcell
      · rw [Grid.getElem?_put_of_ne (neighbor_ne hg hcell (neighbor?_eq_ok_some.1 hx).1).symm]
        exact hcell
    cases done with
    | true =>
      obtain ⟨-, h⟩ := Turn.pure_eq_ok.1 h
      cases h
      rcases satisfy_spec hdone with ⟨-, hfalse, -⟩ | ⟨n, j, n', applied, luck₂, hx, hrun, rfl, htrue, hfalse⟩
      · cases hfalse
      · cases applied with
        | false => cases hfalse rfl
        | true =>
          refine .satisfied hcell hb hx ((satisfyNeighbor_frame hrun).mono fun p hp a ha => ?_) (htrue rfl)
          exact Bool.eq_false_iff.2 fun hw => hp ⟨a, ha, hw⟩
    | false =>
      obtain ⟨_, st, hbreak, h⟩ := Turn.bind_eq_ok.1 h
      obtain ⟨-, rfl⟩ := Turn.pure_eq_ok.1 h
      rcases Turn.atCell_spec hbreak with ⟨hnone, -, -⟩ | ⟨c, _, cell', luck₂, hc, hrun, -, heq⟩
      · rw [hcell₁] at hnone
        cases hnone
      · rw [hcell₁] at hc
        cases hc
        cases heq
        obtain ⟨hframe, ⟨-, hfalse⟩ | hwarn⟩ := breakAntecedent_spec hrun
        · rcases satisfy_spec hdone with ⟨hx, -, rfl⟩ | ⟨n, j, n', applied, luck₃, hx, hsat, rfl, htrue, -⟩
          · exact .alone hcell hb hx hframe hfalse
          · exact .failed hcell hb hx hsat (fun happlied => htrue happlied) hframe hfalse
        · have hsame : luck₁.warnings = luck.warnings := hlog
          change luck'.warnings = luck₁.warnings ++ [_] at hwarn
          rw [hquiet, hsame] at hwarn
          exact absurd hwarn (by simp)

namespace Step

theorem cells_length (h : Step r details k g g') : g'.cells.length = g.cells.length := by
  cases h <;> simp

theorem rowMajor (hg : g.RowMajor) (h : Step r details k g g') : g'.RowMajor := by
  cases h with
  | idle => exact hg
  | satisfied hcell hb hx hframe =>
    exact Grid.rowMajor_put hg (neighbor?_eq_ok_some.1 hx).2 hframe.1.symm
  | alone hcell hb hx hframe => exact Grid.rowMajor_put hg hcell hframe.1.symm
  | failed hcell hb hx hrun hdone hframe =>
    obtain ⟨hj, hn⟩ := neighbor?_eq_ok_some.1 hx
    have hput := Grid.rowMajor_put hg hn (satisfyNeighbor_frame hrun).1.symm
    refine Grid.rowMajor_put hput ?_ hframe.1.symm
    rw [Grid.getElem?_put_of_ne (neighbor_ne hg hcell hj).symm]
    exact hcell

/-- A turn makes the requirement hold on its own cell. -/
theorem satisfiedAt_self (hg : g.RowMajor) (h : Step r details k g g') : r.SatisfiedAt details g' k := by
  intro c hc
  cases h with
  | idle hcell hb =>
    rw [hcell] at hc
    cases hc
    exact holdsOn_of_antecedent_false hb
  | @satisfied cell neighbor neighbor' j hcell hb hx hframe hconditions =>
    obtain ⟨hj, hn⟩ := neighbor?_eq_ok_some.1 hx
    rw [Grid.getElem?_put_of_ne (neighbor_ne hg hcell hj).symm, hcell] at hc
    cases hc
    refine holdsOn_eq_ok_true.2 (.inr ⟨hb, neighbor', j, ?_, hconditions⟩)
    exact neighbor?_eq_ok_some.2 ⟨hj, Grid.getElem?_put_self hn⟩
  | alone hcell hb hx hframe hfalse =>
    rw [Grid.getElem?_put_self hcell] at hc
    cases hc
    exact holdsOn_of_antecedent_false hfalse
  | @failed cell cell' neighbor neighbor' j _ _ _ hcell hb hx hrun hdone hframe hfalse =>
    have hcell₁ : (g.put j neighbor').cells[k]? = some cell := by
      rw [Grid.getElem?_put_of_ne (neighbor_ne hg hcell (neighbor?_eq_ok_some.1 hx).1).symm]
      exact hcell
    rw [Grid.getElem?_put_self hcell₁] at hc
    cases hc
    exact holdsOn_of_antecedent_false hfalse

end Step

end Requirement
end ShapePuzzle
