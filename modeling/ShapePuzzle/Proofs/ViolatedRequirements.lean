import ShapePuzzle.Proofs.RefutedCells
import ShapePuzzle.Proofs.RequirementEnforcement

/-!
# Requirements that were violated

The neighbor of a witness is spoilt on the grid itself, and stays so if the requirement does not fail for it. After
that a cell and its neighbor are worked on as copies, which take their places only once the requirement fails.
-/
namespace ShapePuzzle
variable {details : Details} {st₀ st : Grid × Luck}

namespace Requirement
variable {r : Requirement} {g g' : Grid} {cell neighbor : Cell} {j k : Nat}

theorem neighborIndex?_put (r : Requirement) (details : Details) (g : Grid) (k : Nat) (c cell : Cell) :
    r.neighborIndex? details (g.put k c) cell = r.neighborIndex? details g cell := rfl

theorem neighbor?_eq_ok_none :
    r.neighbor? details g cell = .ok none ↔ r.neighborIndex? details g cell = .ok none := by
  simp only [neighbor?, except_bind_eq_ok]
  constructor
  · rintro ⟨x, hx, h⟩
    cases x with
    | none => exact hx
    | some j =>
      obtain ⟨v, d, -, -, hj⟩ := neighborIndex?_eq_ok.1 hx
      obtain ⟨n, hn⟩ := Grid.exists_cell_of_index? hj
      simp only [hn, Option.map_some, except_pure_eq_ok] at h
      cases h
  · intro hx
    exact ⟨none, hx, rfl⟩

/-- A cell that is to take the place of another has its neighbor elsewhere. -/
theorem neighbor_ne_of_position {forced : Cell} (hg : g.RowMajor) (hcell : g.cells[k]? = some cell)
    (hpos : forced.position = cell.position) (h : r.neighborIndex? details g forced = .ok (some j)) : j ≠ k := by
  have hput := Grid.rowMajor_put hg hcell hpos
  rw [← neighborIndex?_put r details g k forced forced] at h
  exact neighbor_ne hput (Grid.getElem?_put_self hcell) h

/-- How a violation may leave the grid: the neighbor of a cell is spoilt, or the antecedent was forced onto a cell
that has no neighbor, or onto one whose neighbor is spoilt as well. -/
inductive Violated (r : Requirement) (details : Details) (g : Grid) : Grid → Prop
  | spoilt {cell neighbor spoilt : Cell} {k j : Nat} : g.cells[k]? = some cell →
      r.neighbor? details g cell = .ok (some (neighbor, j)) → spoilt.position = neighbor.position →
      r.holdsOn details (g.put j spoilt) cell = .ok false → Violated r details g (g.put j spoilt)
  | alone {cell forced : Cell} {k : Nat} : g.cells[k]? = some cell → forced.position = cell.position →
      Condition.evaluate? (forced.context details g.size) r.antecedent = .ok true →
      r.neighbor? details g forced = .ok none → Violated r details g (g.put k forced)
  | forced {cell forced neighbor spoilt : Cell} {k j : Nat} : g.cells[k]? = some cell →
      forced.position = cell.position →
      Condition.evaluate? (forced.context details g.size) r.antecedent = .ok true →
      r.neighbor? details g forced = .ok (some (neighbor, j)) → spoilt.position = neighbor.position →
      r.conditionsHold details g.size forced spoilt = .ok false →
      Violated r details g ((g.put k forced).put j spoilt)

theorem Violated.refutedOn (hg : g.RowMajor) (h : r.Violated details g g') :
    (Rule.requirement r).RefutedOn details g' := by
  cases h with
  | @spoilt cell neighbor spoilt k j hcell hx _ hfalse =>
    have hjk := neighbor_ne hg hcell (neighbor?_eq_ok_some.1 hx).1
    have hkept : (g.put j spoilt).cells[k]? = some cell := by rw [Grid.getElem?_put_of_ne hjk.symm, hcell]
    exact ⟨cell, List.mem_of_getElem? hkept, hfalse⟩
  | @alone cell forced k hcell hpos he hx =>
    have hx' : r.neighbor? details (g.put k forced) forced = .ok none := by
      rw [neighbor?_eq_ok_none, neighborIndex?_put]
      exact neighbor?_eq_ok_none.1 hx
    exact ⟨forced, List.mem_of_getElem? (Grid.getElem?_put_self hcell), holdsOn_eq_ok_false he (.inl hx')⟩
  | @forced cell forced neighbor spoilt k j hcell hpos he hx _ hfalse =>
    obtain ⟨hindex, hn⟩ := neighbor?_eq_ok_some.1 hx
    have hjk := neighbor_ne_of_position hg hcell hpos hindex
    have hforced : ((g.put k forced).put j spoilt).cells[k]? = some forced := by
      rw [Grid.getElem?_put_of_ne hjk.symm, Grid.getElem?_put_self hcell]
    have hspoilt : ((g.put k forced).put j spoilt).cells[j]? = some spoilt :=
      Grid.getElem?_put_self ((Grid.getElem?_put_of_ne hjk).trans hn)
    have hx' : r.neighbor? details ((g.put k forced).put j spoilt) forced = .ok (some (spoilt, j)) :=
      neighbor?_eq_ok_some.2 ⟨hindex, hspoilt⟩
    exact ⟨forced, List.mem_of_getElem? hforced, holdsOn_eq_ok_false he (.inr ⟨spoilt, j, hx', hfalse⟩)⟩

/-- The cell meets the antecedent, and its neighbor meets the conditions. -/
structure Witness (r : Requirement) (details : Details) (g : Grid) (cell neighbor : Cell) (j : Nat) : Prop where
  antecedent : Condition.evaluate? (cell.context details g.size) r.antecedent = .ok true
  beside : r.neighbor? details g cell = .ok (some (neighbor, j))
  conditions : r.conditionsHold details g.size cell neighbor = .ok true

theorem mem_of_witnesses {cells : List (Cell × Nat)} {ws : List ((Cell × Nat) × Nat)}
    (h : r.witnesses details g cells = .ok ws) :
    ∀ w ∈ ws, w.1 ∈ cells ∧ ∃ neighbor, r.Witness details g w.1.1 neighbor w.2 := by
  induction cells generalizing ws with
  | nil =>
    cases h
    simp
  | cons p rest ih =>
    obtain ⟨cell, k⟩ := p
    have hcons : ∀ w : (Cell × Nat) × Nat, (w.1 ∈ rest ∧ ∃ n, r.Witness details g w.1.1 n w.2) →
        w.1 ∈ (cell, k) :: rest ∧ ∃ n, r.Witness details g w.1.1 n w.2 :=
      fun w hw => ⟨List.mem_cons_of_mem _ hw.1, hw.2⟩
    have hskip : (r.witnesses details g rest >>= fun others => pure others) = .ok ws →
        ∀ w ∈ ws, w.1 ∈ (cell, k) :: rest ∧ ∃ n, r.Witness details g w.1.1 n w.2 := by
      intro h w hw
      obtain ⟨others, hothers, h⟩ := except_bind_eq_ok.1 h
      cases h
      exact hcons w (ih hothers w hw)
    obtain ⟨b, hantecedent, h⟩ := except_bind_eq_ok.1 h
    cases b with
    | false => exact hskip h
    | true =>
      obtain ⟨x, hx, h⟩ := except_bind_eq_ok.1 h
      cases x with
      | none => exact hskip h
      | some q =>
        obtain ⟨b, hconditions, h⟩ := except_bind_eq_ok.1 h
        cases b with
        | false => exact hskip h
        | true =>
          change (r.witnesses details g rest >>= fun others => pure (((cell, k), q.2) :: others)) = .ok ws at h
          obtain ⟨others, hothers, h⟩ := except_bind_eq_ok.1 h
          cases h
          exact List.forall_mem_cons.2 ⟨⟨List.mem_cons_self, q.1, hantecedent, hx, hconditions⟩,
            fun w hw => hcons w (ih hothers w hw)⟩

theorem mem_of_alone {cells lone : List (Cell × Nat)} (h : r.alone details g cells = .ok lone) :
    ∀ p ∈ lone, p ∈ cells := by
  induction cells generalizing lone with
  | nil =>
    cases h
    simp
  | cons c cs ih =>
    simp only [alone, except_bind_eq_ok, except_pure_eq_ok] at h
    obtain ⟨x, -, rest, hrest, rfl⟩ := h
    have hmem := ih hrest
    cases x with
    | none => exact fun p hp => List.mem_cons.2 ((List.mem_cons.1 hp).imp_right (hmem p))
    | some j => exact fun p hp => List.mem_cons_of_mem c (hmem p hp)

theorem mem_of_candidates {cells chosen : List (Cell × Nat)} (h : r.candidates details g cells = .ok chosen) :
    ∀ p ∈ chosen, p ∈ cells := by
  unfold candidates at h
  split at h
  · cases h
    exact fun _ hp => hp
  · exact mem_of_alone h

/-- What an attempt to spoil the neighbor of a witness may leave if the requirement does not fail for it: the grid
as it was, or the neighbor as the declared violation made it. -/
inductive Attempted (r : Requirement) (details : Details) (g : Grid) : Grid → Prop
  | untouched : Attempted r details g g
  | futile {cell neighbor spoilt : Cell} {k j : Nat} {spoil : NeighborAction} {status : Status} {luck luck' : Luck} :
      g.cells[k]? = some cell → r.Witness details g cell neighbor j → r.neighbor.violation = some spoil →
      (spoil.apply cell details g.size) (neighbor, luck) = .ok status (spoilt, luck') →
      r.holdsOn details (g.put j spoilt) cell ≠ .ok false → Attempted r details g (g.put j spoilt)

theorem Attempted.rowMajor (h : r.Attempted details g g') (hg : g.RowMajor) : g'.RowMajor := by
  cases h with
  | untouched => exact hg
  | futile _ hwitness _ hrun _ =>
    exact Grid.rowMajor_put hg (neighbor?_eq_ok_some.1 hwitness.beside).2 (NeighborAction.apply_frame hrun).1.symm

/-- The declared violation stays on the grid where it was carried out, and a fault leaves the neighbor alone. -/
private theorem meets_spoil {luck : Luck} (spoil : NeighborAction) (cell : Cell) (hn : g.cells[j]? = some neighbor) :
    Turn.Meets (Turn.atCell j (spoil.apply cell details g.size)) (g, luck)
      (fun _ st' => st'.2.warnings = luck.warnings ∧ ∃ status spoilt luck',
        (spoil.apply cell details g.size) (neighbor, luck) = .ok status (spoilt, luck') ∧ st'.1 = g.put j spoilt)
      fun _ st' => st'.1 = g := by
  refine .atCell (fun hnone => ?_) fun n hn' => ?_
  · cases hn.symm.trans hnone
  · cases hn.symm.trans hn'
    refine .of_run (fun status st' hrun => ?_) fun e st' hrun => ?_
    · exact ⟨(spoil.silent_apply _ _ _).warnings_eq hrun, status, st'.1, st'.2, hrun, rfl⟩
    · rw [NeighborAction.apply_error hrun, Grid.put_self hn]

/-- How an attempt at a witness ends: the requirement fails, or what was attempted is on the grid. -/
private def Tried (r : Requirement) (details : Details) (st₀ : Grid × Luck) (done : Bool) (st : Grid × Luck) : Prop :=
  st.2.warnings = st₀.2.warnings ∧ if done then r.Violated details st₀.1 st.1 else r.Attempted details st₀.1 st.1

private theorem meets_spoilWitness {spoil : NeighborAction} (hv : r.neighbor.violation = some spoil)
    {found : List ((Cell × Nat) × Nat)} (hfound : r.witnesses details st.1 st.1.numbered = .ok found) :
    Turn.Meets (r.spoilWitness details st.1.size spoil found) st (r.Tried details st)
      fun _ st' => r.Attempted details st.1 st'.1 := by
  refine .bind (Q := fun w st₁ => w ∈ found ∧ Unmoved st st₁) (meets_pick (fun w hw _ h => ⟨hw, h⟩)
    fun _ => .untouched) ?_
  rintro ⟨⟨cell, k⟩, j⟩ ⟨g, luck⟩ ⟨hw, rfl, hlog⟩
  obtain ⟨hmem, neighbor, hwitness⟩ := mem_of_witnesses hfound _ hw
  have hcell := Grid.mem_numbered.1 hmem
  have hn := (neighbor?_eq_ok_some.1 hwitness.beside).2
  refine ((meets_spoil spoil cell hn).mono (fun _ _ h => h) fun e st' h => ?_).bind ?_
  · rw [h]
    exact .untouched
  rintro status ⟨g₂, luck₂⟩ ⟨hlog₂, _, spoilt, _, hrun, rfl⟩
  have hfutile : r.holdsOn details (st.1.put j spoilt) cell ≠ .ok false → r.Attempted details st.1 (st.1.put j spoilt) :=
    .futile hcell hwitness hv hrun
  refine .bind_subject (.bind_ofExcept (fun b hb => .pure ⟨hlog₂.trans hlog, ?_⟩) fun e he => hfutile ?_)
  · cases b with
    | false => exact .spoilt hcell hwitness.beside (NeighborAction.apply_frame hrun).1.symm hb
    | true => exact hfutile fun hfalse => by cases hb.symm.trans hfalse
  · exact fun hfalse => by cases he.symm.trans hfalse

/-- Spoiling the neighbor of a witness makes the requirement fail or is an attempt. -/
private theorem meets_violateWitness (r : Requirement) (details : Details) (st : Grid × Luck) :
    Turn.Meets (r.violateWitness details) st (r.Tried details st) fun _ st' => r.Attempted details st.1 st'.1 := by
  refine .bind_subject (.bind_ofExcept (fun found hfound => ?_) fun _ _ => .untouched)
  cases hv : r.neighbor.violation with
  | none => exact .pure ⟨rfl, .untouched⟩
  | some spoil =>
    dsimp only
    split
    · exact .pure ⟨rfl, .untouched⟩
    · exact meets_spoilWitness hv hfound

section Spoil
variable {st st' : Cell × Luck} {u : Unit} {size : Int}

private theorem silent_spoilNeighbor (r : Requirement) (details : Details) (size : Int) (cell : Cell) :
    Turn.Silent (r.spoilNeighbor details size cell) := by
  refine .bind (silent_satisfyNeighbor _ _ _ _) fun _ => ?_
  cases r.neighbor.violation with
  | none => exact .throw _
  | some spoil => exact .bind (spoil.silent_apply _ _ _) fun _ => .pure _

private theorem position_of_spoilNeighbor (h : (r.spoilNeighbor details size cell) st = .ok u st') :
    st'.1.position = st.1.position := by
  obtain ⟨done, st₁, hsatisfy, h⟩ := Turn.bind_eq_ok.1 h
  have hsame := (satisfyNeighbor_frame hsatisfy).1
  cases hv : r.neighbor.violation with
  | none =>
    simp only [hv] at h
    exact absurd h Turn.throw_ne_ok
  | some spoil =>
    simp only [hv] at h
    obtain ⟨status, st₂, hspoil, h⟩ := Turn.bind_eq_ok.1 h
    rw [← (Turn.pure_eq_ok.1 h).2, hsame, (NeighborAction.apply_frame hspoil).1]

end Spoil

private theorem meets_violateForced {cells : List (Cell × Nat)}
    (hcells : ∀ p ∈ cells, st₀.1.cells[p.2]? = some p.1) (hg : st₀.1.RowMajor) (hst : Unmoved st₀ st) :
    Turn.Meets (r.violateForced details cells) st
      (fun done st' => st'.2.warnings = st₀.2.warnings ∧
        if done then r.Violated details st₀.1 st'.1 else st'.1 = st₀.1)
      fun _ st' => st'.1 = st₀.1 := by
  induction cells generalizing st with
  | nil => exact .pure ⟨hst.2, hst.1⟩
  | cons p rest ih =>
    obtain ⟨cell, k⟩ := p
    obtain ⟨hcell, hrest⟩ := List.forall_mem_cons.1 hcells
    refine .bind_subject ?_
    rw [hst.1]
    refine (meets_forcedAside hst).bind fun x st₁ hforced => ?_
    cases x with
    | none => exact ih hrest hforced.1
    | some forced =>
      obtain ⟨hpos, he⟩ := hforced.2 forced rfl
      refine .bind_ofExcept (fun x hx => ?_) fun _ _ => hforced.1.1
      obtain ⟨g₁, luck₁⟩ := st₁
      obtain ⟨⟨rfl, hlog₁⟩, -⟩ := hforced
      cases x with
      | none => exact .bind_commit hcell hpos (.pure ⟨hlog₁, .alone hcell hpos he hx⟩)
      | some q =>
        obtain ⟨neighbor, j⟩ := q
        refine .bind_aside ?_ fun _ _ => rfl
        intro u spoilt luck₂ hrun
        have hlog₂ : luck₂.warnings = luck₁.warnings := (r.silent_spoilNeighbor _ _ _).warnings_eq hrun
        have hposSpoilt : spoilt.position = neighbor.position := position_of_spoilNeighbor hrun
        refine .bind_ofExcept (fun b hb => ?_) fun _ _ => rfl
        cases b with
        | true => exact ih hrest ⟨rfl, hlog₂.trans hlog₁⟩
        | false =>
          obtain ⟨hindex, hn⟩ := neighbor?_eq_ok_some.1 hx
          have hjk := neighbor_ne_of_position hg hcell hpos hindex
          exact .bind_commit hcell hpos (.bind_commit ((Grid.getElem?_put_of_ne hjk).trans hn) hposSpoilt
            (.pure ⟨hlog₂.trans hlog₁, .forced hcell hpos he hx hposSpoilt hb⟩))

/-- Forcing the antecedent onto one cell after the other makes the requirement fail or changes nothing. -/
theorem meets_violateElsewhere (r : Requirement) (details : Details) (hg : st.1.RowMajor) :
    Turn.Meets (r.violateElsewhere details) st
      (fun _ st' => r.Violated details st.1 st'.1 ∧ st'.2.warnings = st.2.warnings ∨
        st'.1 = st.1 ∧ st'.2.warnings = st.2.warnings ++ [.requirementKept])
      fun _ st' => st'.1 = st.1 := by
  refine .bind_subject (.bind (Q := fun cells st₁ => cells.Perm st.1.numbered ∧ Unmoved st st₁)
    (meets_shuffle fun _ hp _ h => ⟨hp, h⟩) ?_)
  rintro cells st₁ ⟨hperm, hst₁⟩
  refine .bind_ofExcept (fun chosen hchosen => ?_) fun _ _ => hst₁.1
  have hcells : ∀ p ∈ chosen, st.1.cells[p.2]? = some p.1 :=
    fun p hp => Grid.mem_numbered.1 (hperm.mem_iff.1 (mem_of_candidates hchosen p hp))
  refine (meets_violateForced hcells hg hst₁).bind fun done st₂ htried => ?_
  cases done with
  | true => exact .pure (.inl ⟨htried.2, htried.1⟩)
  | false => exact .warn (.inr ⟨htried.2, by rw [htried.1]⟩)

/-- Violating a requirement violates it on the grid that an attempt at a witness has left, or says that it was skipped.
Where it was skipped, or stopped with a fault, the grid is as that attempt has left it. -/
theorem meets_violate (r : Requirement) (details : Details) (hg : st.1.RowMajor) :
    Turn.Meets (r.violate details) st
      (fun _ st' => ∃ g, r.Attempted details st.1 g ∧
        (r.Violated details g st'.1 ∧ st'.2.warnings = st.2.warnings ∨
          st'.1 = g ∧ st'.2.warnings = st.2.warnings ++ [.requirementKept]))
      fun _ st' => r.Attempted details st.1 st'.1 := by
  rw [violate_eq]
  refine (r.meets_violateWitness details st).bind fun done st₁ h => ?_
  obtain ⟨hlog, htried⟩ := h
  cases done with
  | true => exact .pure ⟨st.1, .untouched, .inl ⟨htried, hlog⟩⟩
  | false =>
    have hattempted : r.Attempted details st.1 st₁.1 := htried
    refine (r.meets_violateElsewhere details (hattempted.rowMajor hg)).mono (fun _ st' h => ?_) fun _ st' h => ?_
    · rw [hlog] at h
      exact ⟨st₁.1, hattempted, h⟩
    · rw [h]
      exact hattempted

end Requirement

end ShapePuzzle
