import ShapePuzzle.Proofs.RandomGrids
import ShapePuzzle.Proofs.RequirementSteps
import ShapePuzzle.Proofs.TameActions

/-!
# Rules that are enforced quietly

On a proper grid a rule made of tame parts is enforced without a fault and without a complaint, and whether it
holds can be told.
-/
namespace ShapePuzzle

/-- A grid of a size whose cells stand row by row and have values of the domains. -/
structure Grid.Proper (size : Int) (g : Grid) : Prop where
  size_eq : g.size = size
  rowMajor : g.RowMajor
  ordinary : g.Ordinary

theorem Grid.Proper.put {size : Int} {g : Grid} (hg : g.Proper size) {k : Nat} {c c' : Cell}
    (hc : g.cells[k]? = some c) (hkept : c.Kept c') : (g.put k c').Proper size where
  size_eq := hg.size_eq
  rowMajor := rowMajor_put hg.rowMajor hc hkept.2
  ordinary := by
    intro d hd
    rcases List.mem_or_eq_of_mem_set hd with hd | rfl
    · exact hg.ordinary d hd
    · exact hkept.1

theorem Grid.Proper.exists_cell {size : Int} {g : Grid} (hg : g.Proper size) {k : Nat} (hk : (k : Int) < size * size) :
    ∃ c, g.cells[k]? = some c ∧ c.Ordinary := by
  have hlength := g.square
  rw [hg.size_eq] at hlength
  have hlt : k < g.cells.length := by omega
  exact ⟨g.cells[k], List.getElem?_eq_getElem hlt, hg.ordinary _ (List.getElem_mem hlt)⟩

theorem Grid.Proper.ordinary_of_getElem? {size : Int} {g : Grid} (hg : g.Proper size) {k : Nat} {c : Cell}
    (hc : g.cells[k]? = some c) : c.Ordinary :=
  hg.ordinary c (List.mem_of_getElem? hc)

/-- A check that has a value on all elements has one on the list. -/
theorem exists_allM {ε α : Type} {f : α → Except ε Bool} {xs : List α} (h : ∀ x ∈ xs, ∃ b, f x = .ok b) :
    ∃ b, xs.allM f = .ok b := by
  induction xs with
  | nil => exact ⟨true, rfl⟩
  | cons x xs ih =>
    obtain ⟨b, hb⟩ := h x List.mem_cons_self
    obtain ⟨b', hb'⟩ := ih fun y hy => h y (List.mem_cons_of_mem x hy)
    cases b with
    | true => exact ⟨b', by simp only [List.allM, hb]; exact hb'⟩
    | false => exact ⟨false, by simp only [List.allM, hb]; rfl⟩

/-- Such a check fails on the list if it fails on an element. -/
theorem allM_eq_ok_false {ε α : Type} {f : α → Except ε Bool} {xs : List α} (h : ∀ x ∈ xs, ∃ b, f x = .ok b)
    {x : α} (hx : x ∈ xs) (hfalse : f x = .ok false) : xs.allM f = .ok false := by
  obtain ⟨b, hb⟩ := exists_allM h
  cases b with
  | false => exact hb
  | true =>
    rw [allM_eq_ok_true.1 hb x hx] at hfalse
    cases hfalse

variable {details : Details} {size : Int} {g : Grid} {cell : Cell}

namespace Implication
variable {r : Implication}

/-- Nothing about the implication can go wrong on a cell with values of the domains. -/
structure Tame (r : Implication) (details : Details) (size : Int) : Prop where
  antecedent : Condition.Tame? details size r.antecedent
  actions : ∀ a ∈ r.actions, a.Tame details size
  violation : ∀ a, r.violation = some a → a.Tame details size
  relief : (∀ a ∈ r.actions, a.Sure details size) ∨ Breakable details size r.antecedent r.breakAntecedent

theorem Tame.exists_holdsOn (hr : r.Tame details size) (hcell : cell.Ordinary) :
    ∃ b, r.holdsOn details size cell = .ok b := by
  obtain ⟨b, hb⟩ := hr.antecedent.exists_evaluate hcell
  obtain ⟨b', hb'⟩ := exists_allM fun a ha => CellAction.exists_holds (hr.actions a ha) hcell
  cases b with
  | true => exact ⟨b', by simp only [holdsOn, hb]; exact hb'⟩
  | false => exact ⟨true, by simp only [holdsOn, hb]; rfl⟩

private theorem quiet_runActions {actions : List CellAction} (hactions : ∀ a ∈ actions, a.Tame details size)
    (hrelief : (∀ a ∈ actions, a.Sure details size) ∨ Breakable details size r.antecedent r.breakAntecedent)
    (hcell : cell.Ordinary) :
    Turn.Quiet (r.runActions details size actions) cell fun _ cell' => cell.Kept cell' := by
  induction actions generalizing cell with
  | nil => exact .pure ⟨hcell, rfl⟩
  | cons a rest ih =>
    refine .bind ((CellAction.quiet_apply (hactions a List.mem_cons_self) hcell).and_run
      (P := fun status _ => a.Sure details size → status = .applied) fun hrun _ hsure => hsure hcell hrun) ?_
    rintro status cell' ⟨hkept, happlied⟩
    cases status with
    | applied =>
      have hrelief' : (∀ b ∈ rest, b.Sure details size) ∨
          Breakable details size r.antecedent r.breakAntecedent := by
        rcases hrelief with hsure | hbreakable
        · left
          intro b hb
          exact hsure b (List.mem_cons_of_mem a hb)
        · exact .inr hbreakable
      exact (ih (fun b hb => hactions b (List.mem_cons_of_mem a hb)) hrelief' hkept.1).mono
        fun _ _ h => hkept.trans h
    | needsBreak =>
      rcases hrelief with hsure | hbreakable
      · exact absurd (happlied (hsure a List.mem_cons_self)) nofun
      · exact (quiet_breakAntecedent hbreakable hkept.1).mono fun _ _ h => hkept.trans h

theorem Tame.quiet_enforceCell (hr : r.Tame details size) (hcell : cell.Ordinary) :
    Turn.Quiet (r.enforceCell details size) cell fun _ cell' => cell.Kept cell' := by
  obtain ⟨b, hb⟩ := hr.antecedent.exists_evaluate hcell
  refine .bind_subject (.bind_ofExcept hb ?_)
  cases b with
  | false => exact .pure ⟨hcell, rfl⟩
  | true => exact quiet_runActions hr.actions hr.relief hcell

end Implication

namespace NeighborAction

/-- The action gives only values of the domains, and compares with nothing but integers. -/
def Tame (details : Details) (size : Int) : NeighborAction → Prop
  | set p v => ∀ cell neighbor : Cell, cell.Ordinary → neighbor.Ordinary →
      ∃ w ∈ p.domain, v.resolve (cell.contextWith neighbor details size) = .ok w
  | setDistinct _ k => ∃ w, details.lookup k = some w
  | ensureNumber c k | breakNumber c k => (∃ n, details.lookup k = some (.int n)) ∧
      ∀ cell neighbor : Cell, ∃ op, c.resolve (cell.contextWith neighbor details size) = .ok op

variable {neighbor : Cell} {a : NeighborAction}

theorem exists_numbersComparing (wanted : Bool) (op : Comparison) (n : Int) (ms : List Int) :
    ∃ vs, numbersComparing wanted op (.int n) ms = .ok vs ∧
      ∀ v, v ∈ vs ↔ ∃ m ∈ ms, v = .int m ∧ op.test (.int m) (.int n) = .ok wanted := by
  induction ms with
  | nil => exact ⟨[], rfl, by simp⟩
  | cons m ms ih =>
    obtain ⟨b, hb⟩ := op.exists_test_int m n
    obtain ⟨vs, hvs, hmem⟩ := ih
    refine ⟨if b = wanted then .int m :: vs else vs, by simp only [numbersComparing, hb, hvs]; rfl, fun v => ?_⟩
    by_cases hbw : b = wanted
    · simp [hbw, hmem, hb]
    · simp [hbw, hmem, hb]

/-- What is picked compares as wanted; nothing is picked only if no number does. -/
private theorem quiet_pickComparing (wanted : Bool) (op : Comparison) (n : Int) (hneighbor : neighbor.Ordinary) :
    Turn.Quiet (pickComparing wanted op (.int n) neighbor.number) neighbor fun v neighbor' =>
      neighbor' = neighbor ∧ (v = none → ¬ ∃ m ∈ numbers, op.test (.int m) (.int n) = .ok wanted) ∧
        ∀ w, v = some w → ∃ m ∈ numbers, w = .int m ∧ op.test (.int m) (.int n) = .ok wanted := by
  obtain ⟨vs, hvs, hmem⟩ := exists_numbersComparing wanted op n numbers
  have hsome : ∀ {v w : Value}, v ∈ vs → some v = some w →
      ∃ m ∈ numbers, w = .int m ∧ op.test (.int m) (.int n) = .ok wanted := by
    intro v w hv hw
    cases hw
    exact (hmem v).1 hv
  refine .bind_ofExcept hvs ?_
  split
  · rename_i hempty
    refine .pure ⟨rfl, fun _ => ?_, by simp⟩
    rintro ⟨m, hm, htest⟩
    have hv := (hmem (.int m)).2 ⟨m, hm, rfl, htest⟩
    rw [List.isEmpty_iff.1 hempty] at hv
    exact absurd hv List.not_mem_nil
  · rename_i hfull
    split
    · rename_i hin
      have hdomain : ∀ v ∈ vs, v ∈ Property.domain .number := by
        intro v hv
        obtain ⟨m, hm, rfl, -⟩ := (hmem v).1 hv
        exact Property.mem_domain_number.2 ⟨m, hm, rfl⟩
      have hcurrent := (Property.isIn_iff_of_mem_domain (hneighbor .number) hdomain).1 hin
      exact .pure ⟨rfl, nofun, fun _ => hsome hcurrent⟩
    · have hne : vs ≠ [] := fun h => hfull (List.isEmpty_iff.2 h)
      refine .bind (Q := fun v neighbor' => neighbor' = neighbor ∧ v ∈ vs) (quiet_pick hne fun v hv => ⟨rfl, hv⟩) ?_
      rintro v _ ⟨rfl, hv⟩
      exact .pure ⟨rfl, nofun, fun _ => hsome hv⟩

/-- A number that compares as wanted is put in, unless there is none. -/
theorem quiet_setComparing {wanted : Bool} {c : ComparisonSpec} {k : String} {op : Comparison} {n : Int}
    (hop : c.resolve (cell.contextWith neighbor details size) = .ok op) (hk : details.lookup k = some (.int n))
    (hneighbor : neighbor.Ordinary) :
    Turn.Quiet (setComparing wanted c k cell details size) neighbor fun status neighbor' => neighbor.Kept neighbor' ∧
      ((∃ m ∈ numbers, op.test (.int m) (.int n) = .ok wanted) → status = .applied ∧
        (∀ q, q ≠ .number → neighbor'.get q = neighbor.get q) ∧
        ∃ m, neighbor'.number = .int m ∧ op.test (.int m) (.int n) = .ok wanted) := by
  refine .bind_subject (.bind_ofExcept hop (.bind_ofExcept (Details.find_eq_ok.2 hk) ?_))
  refine .bind (quiet_pickComparing wanted op n hneighbor) ?_
  rintro v neighbor' ⟨rfl, hnone, hsome⟩
  cases v with
  | none => exact .pure ⟨⟨hneighbor, rfl⟩, fun hexists => absurd hexists (hnone rfl)⟩
  | some v =>
    obtain ⟨m, hm, rfl, htest⟩ := hsome v rfl
    have hkept := hneighbor.kept_set (Property.mem_domain_number.2 ⟨m, hm, rfl⟩)
    exact .bind_become (.pure ⟨hkept, fun _ => ⟨rfl, fun q hq => Cell.get_set_of_ne _ hq _, m, rfl, htest⟩⟩)

theorem quiet_apply (ha : a.Tame details size) (hcell : cell.Ordinary) (hneighbor : neighbor.Ordinary) :
    Turn.Quiet (a.apply cell details size) neighbor fun _ neighbor' => neighbor.Kept neighbor' := by
  cases a with
  | set p v =>
    obtain ⟨w, hw, hv⟩ := ha cell neighbor hcell hneighbor
    exact .bind_subject (.bind_ofExcept hv (.bind_become (.pure (hneighbor.kept_set hw))))
  | setDistinct p k =>
    obtain ⟨w, hk⟩ := ha
    refine .bind_ofExcept (Details.find_eq_ok.2 hk) ?_
    refine .bind (Q := fun v neighbor' => v ∈ p.domain ∧ neighbor' = neighbor)
      (quiet_pickDistinct fun v hv _ => ⟨hv, rfl⟩) ?_
    rintro v neighbor' ⟨hv, rfl⟩
    exact .bind_subject (.bind_become (.pure (hneighbor.kept_set hv)))
  | ensureNumber c k =>
    obtain ⟨⟨n, hk⟩, hc⟩ := ha
    obtain ⟨op, hop⟩ := hc cell neighbor
    exact (quiet_setComparing hop hk hneighbor).mono fun _ _ h => h.1
  | breakNumber c k =>
    obtain ⟨⟨n, hk⟩, hc⟩ := ha
    obtain ⟨op, hop⟩ := hc cell neighbor
    exact (quiet_setComparing hop hk hneighbor).mono fun _ _ h => h.1

end NeighborAction

namespace Requirement
variable {r : Requirement} {neighbor : Cell} {j k : Nat}

/-- Nothing about the requirement can go wrong on cells with values of the domains. -/
structure Tame (r : Requirement) (details : Details) (size : Int) : Prop where
  antecedent : Condition.Tame? details size r.antecedent
  direction : ∃ d : Direction, r.neighbor.direction = .constant (.text d.name)
  conditions : ∀ cell neighbor : Cell, cell.Ordinary → neighbor.Ordinary →
    ∃ b, r.conditionsHold details size cell neighbor = .ok b
  actions : ∀ a ∈ r.neighbor.satisfy, a.Tame details size
  relief : Breakable details size r.antecedent r.breakAntecedent

theorem Tame.straight (hr : r.Tame details size) : r.Straight := by
  obtain ⟨d, hd⟩ := hr.direction
  simp [Straight, hd]

/-- Whether a cell has a neighbor can be told. -/
theorem Tame.exists_neighborIndex? (hr : r.Tame details size) (g : Grid) (cell : Cell) :
    ∃ x, r.neighborIndex? details g cell = .ok x ∧
      ∀ j, x = some j → ∃ neighbor, r.neighbor? details g cell = .ok (some (neighbor, j)) := by
  obtain ⟨d, hd⟩ := hr.direction
  have hindex : r.neighborIndex? details g cell = .ok (g.neighborIndex? cell.position d) :=
    neighborIndex?_eq_ok.2 ⟨.text d.name, d, by rw [hd]; rfl, Direction.ofValue_name d, rfl⟩
  refine ⟨_, hindex, fun j hj => ?_⟩
  obtain ⟨neighbor, hneighbor⟩ := Grid.exists_cell_of_index? hj
  exact ⟨neighbor, neighbor?_eq_ok_some.2 ⟨hindex.trans (congrArg _ hj), hneighbor⟩⟩

theorem Tame.exists_neighbor? (hr : r.Tame details size) (g : Grid) (cell : Cell) :
    ∃ x, r.neighbor? details g cell = .ok x := by
  obtain ⟨x, hx, hsome⟩ := hr.exists_neighborIndex? g cell
  cases x with
  | none => exact ⟨none, by simp only [neighbor?, hx]; rfl⟩
  | some j =>
    obtain ⟨neighbor, hneighbor⟩ := hsome j rfl
    exact ⟨_, hneighbor⟩

theorem Tame.exists_holdsOn (hr : r.Tame details size) (hg : g.Proper size) (hcell : cell.Ordinary) :
    ∃ b, r.holdsOn details g cell = .ok b := by
  obtain ⟨b, hb⟩ := hr.antecedent.exists_evaluate hcell
  rw [← hg.size_eq] at hb
  cases b with
  | false => exact ⟨true, holdsOn_of_antecedent_false hb⟩
  | true =>
    obtain ⟨x, hx⟩ := hr.exists_neighbor? g cell
    cases x with
    | none => exact ⟨false, by simp only [holdsOn, hb, hx]; rfl⟩
    | some p =>
      have hneighbor := hg.ordinary_of_getElem? (neighbor?_eq_ok_some.1 hx).2
      obtain ⟨b', hb'⟩ := hr.conditions cell p.1 hcell hneighbor
      rw [← hg.size_eq] at hb'
      exact ⟨b', by simp only [holdsOn, hb, hx]; exact hb'⟩

theorem quiet_satisfyNeighbor {actions : List NeighborAction} (hactions : ∀ a ∈ actions, a.Tame details size)
    (hcell : cell.Ordinary) (hneighbor : neighbor.Ordinary) :
    Turn.Quiet (satisfyNeighbor cell details size actions) neighbor fun _ neighbor' => neighbor.Kept neighbor' := by
  induction actions generalizing neighbor with
  | nil => exact .pure ⟨hneighbor, rfl⟩
  | cons a rest ih =>
    refine .bind (NeighborAction.quiet_apply (hactions a List.mem_cons_self) hcell hneighbor) ?_
    intro status neighbor₁ hkept
    refine .bind (ih (fun b hb => hactions b (List.mem_cons_of_mem a hb)) hkept.1) ?_
    intro others neighbor₂ hkept₂
    exact .pure (hkept.trans hkept₂)

/-- Working on the neighbor leaves the cell itself as it was. -/
private theorem Tame.quiet_satisfy (hr : r.Tame details size) (hg : g.Proper size) (hc : g.cells[k]? = some cell) :
    Turn.Quiet (r.satisfy details cell) g fun _ g' => g'.Proper size ∧ g'.cells[k]? = some cell := by
  have hcell := hg.ordinary_of_getElem? hc
  obtain ⟨x, hx⟩ := hr.exists_neighbor? g cell
  refine .bind_subject (.bind_ofExcept hx ?_)
  cases x with
  | none => exact .pure ⟨hg, hc⟩
  | some p =>
    obtain ⟨neighbor, j⟩ := p
    obtain ⟨hj, hneighbor⟩ := neighbor?_eq_ok_some.1 hx
    have hactions : ∀ a ∈ r.neighbor.satisfy, a.Tame details g.size := by
      rw [hg.size_eq]
      exact hr.actions
    refine .bind (Q := fun y g' => g'.Proper size ∧ g'.cells[k]? = some cell ∧ ∃ n', g'.cells[j]? = some n')
      (.atCell hneighbor ((quiet_satisfyNeighbor hactions hcell (hg.ordinary_of_getElem? hneighbor)).mono ?_)) ?_
    · intro done neighbor' hkept
      refine ⟨hg.put hneighbor hkept, ?_, neighbor', Grid.getElem?_put_self hneighbor⟩
      rw [Grid.getElem?_put_of_ne (neighbor_ne hg.rowMajor hc hj).symm]
      exact hc
    · rintro y g' ⟨hg', hc', n', hn'⟩
      match y with
      | none | some false => exact .pure ⟨hg', hc'⟩
      | some true =>
        obtain ⟨b, hb⟩ := hr.conditions cell n' hcell (hg'.ordinary_of_getElem? hn')
        rw [← hg.size_eq] at hb
        refine .bind_subject ?_
        simp only [hn']
        exact .ofExcept hb ⟨hg', hc'⟩

theorem Tame.quiet_enforceCell (hr : r.Tame details size) (hg : g.Proper size) (hc : g.cells[k]? = some cell) :
    Turn.Quiet (r.enforceCell details k cell) g fun _ g' => g'.Proper size := by
  have hcell := hg.ordinary_of_getElem? hc
  obtain ⟨b, hb⟩ := hr.antecedent.exists_evaluate hcell
  rw [← hg.size_eq] at hb
  refine .bind_subject (.bind_ofExcept hb ?_)
  cases b with
  | false => exact .pure hg
  | true =>
    refine .bind (hr.quiet_satisfy hg hc) ?_
    rintro done g' ⟨hg', hc'⟩
    cases done with
    | true => exact .pure hg'
    | false =>
      rw [hg.size_eq]
      refine .bind (Q := fun _ g'' => g''.Proper size) (.atCell hc' ?_) fun _ _ h => .pure h
      exact (quiet_breakAntecedent hr.relief hcell).mono fun _ _ hkept => hg'.put hc' hkept

end Requirement

namespace Rule
variable {rule : Rule}

/-- Nothing about the rule can go wrong on a proper grid. -/
def Tame (details : Details) (size : Int) : Rule → Prop
  | implication r => r.Tame details size
  | requirement r => r.Tame details size

theorem Tame.exists_verify (hr : rule.Tame details size) (hg : g.Proper size) :
    ∃ b, rule.verify details g = .ok b := by
  cases rule with
  | implication r =>
    refine exists_allM fun c hc => ?_
    rw [hg.size_eq]
    exact Implication.Tame.exists_holdsOn hr (hg.ordinary c hc)
  | requirement r => exact exists_allM fun c hc => Requirement.Tame.exists_holdsOn hr hg (hg.ordinary c hc)

private theorem Tame.quiet_enforceAt (hr : rule.Tame details size) (hg : g.Proper size) {k : Nat}
    (hk : (k : Int) < size * size) : Turn.Quiet (rule.enforceAt details k) g fun _ g' => g'.Proper size := by
  obtain ⟨c, hc, hcell⟩ := hg.exists_cell hk
  refine .bind_subject ?_
  rw [hc]
  cases rule with
  | implication r =>
    rw [hg.size_eq]
    refine .bind (Q := fun _ g' => g'.Proper size) (.atCell hc ?_) fun _ _ h => .pure h
    exact (Implication.Tame.quiet_enforceCell hr hcell).mono fun _ _ hkept => hg.put hc hkept
  | requirement r => exact Requirement.Tame.quiet_enforceCell hr hg hc

private theorem Tame.quiet_enforceFrom (hr : rule.Tame details size) {ks : List Nat} (hg : g.Proper size)
    (hks : ∀ k ∈ ks, (k : Int) < size * size) :
    Turn.Quiet (rule.enforceFrom details ks) g fun _ g' => g'.Proper size := by
  induction ks generalizing g with
  | nil => exact .pure hg
  | cons k ks ih =>
    refine .bind (hr.quiet_enforceAt hg (hks k List.mem_cons_self)) fun _ g' hg' => ?_
    exact ih hg' fun j hj => hks j (List.mem_cons_of_mem k hj)

/-- A tame rule is enforced on a proper grid without a fault and without a complaint. -/
theorem Tame.quiet_enforce (hr : rule.Tame details size) (hg : g.Proper size) :
    Turn.Quiet (rule.enforce details) g fun _ g' => g'.Proper size := by
  refine .bind_subject (hr.quiet_enforceFrom hg fun k hk => ?_)
  have hlength := g.square
  rw [hg.size_eq] at hlength
  rw [List.mem_range] at hk
  omega

end Rule
end ShapePuzzle
