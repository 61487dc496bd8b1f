import ShapePuzzle.Proofs.TameEnforcement
import ShapePuzzle.Proofs.ViolationPhases

/-!
# Rules that are violated quietly

A violation of a tame rule keeps the grid proper. It finds a counterexample if some cell can carry one whatever
is drawn, and then the rule fails on the grid.
-/
namespace ShapePuzzle

theorem Cell.adopt_of_position {c found : Cell} (h : found.position = c.position) : c.adopt found = found := by
  rw [Cell.adopt, ← h]

theorem Grid.mem_numbered {g : Grid} {c : Cell} {k : Nat} : (c, k) ∈ g.numbered ↔ g.cells[k]? = some c :=
  List.mk_mem_zipIdx_iff_getElem?

theorem Grid.Proper.exists_at {size : Int} {g : Grid} (hg : g.Proper size) {p : Position}
    (hrow : 0 ≤ p.row ∧ p.row < size) (hcol : 0 ≤ p.col ∧ p.col < size) : ∃ c ∈ g.cells, c.position = p := by
  have hindex : ∃ k, g.index? p = some k := by
    refine ⟨_, if_pos ?_⟩
    simp [Grid.inBounds, hg.size_eq, hrow, hcol]
  obtain ⟨k, hk⟩ := hindex
  obtain ⟨c, hc⟩ := Grid.exists_cell_of_index? hk
  refine ⟨c, List.mem_of_getElem? hc, ?_⟩
  rw [hg.rowMajor hc, Grid.ofIndex_of_index? hk]

theorem Turn.Quiet.bind_commit {β : Type} {g : Grid} {k : Nat} {c found : Cell} {f : Unit → Turn Grid β}
    {R : β → Grid → Prop} (hc : g.cells[k]? = some c) (hpos : found.position = c.position)
    (h : Turn.Quiet (f ()) (g.put k found) R) : Turn.Quiet (Turn.commit k found >>= f) g R := by
  refine .bind (Q := fun _ g' => g' = g.put k found) (fun luck => ⟨(), _, luck, rfl, rfl, ?_⟩) ?_
  · simp only [hc, Cell.adopt_of_position hpos]
  · rintro u g' rfl
    exact h

/-- A proper grid on which the rule fails. -/
def Rule.FailsOn (rule : Rule) (details : Details) (size : Int) (g : Grid) : Prop :=
  g.Proper size ∧ rule.verify details g = .ok false

variable {details : Details} {size : Int} {g : Grid} {cell : Cell}

namespace Implication
variable {r : Implication} {cells : List (Cell × Nat)}

/-- The violation declared makes the implication fail on the cell. -/
def Spoils (r : Implication) (details : Details) (size : Int) (cell : Cell) : Prop :=
  ∃ v, r.violation = some v ∧ ∀ {luck luck' : Luck} {status : Status} {cell' : Cell},
    (v.apply details size) (cell, luck) = .ok status (cell', luck') → r.holdsOn details size cell' = .ok false

/-- The antecedent comes to hold on the cell, and then the implication fails at once or when it is violated. -/
def Refutable (r : Implication) (details : Details) (size : Int) (cell : Cell) : Prop :=
  Condition.Takes? details size r.antecedent cell ∧
    ∀ c, cell.Kept c → Condition.evaluate? (c.context details size) r.antecedent = .ok true →
      r.holdsOn details size c = .ok false ∨ r.Spoils details size c

private theorem Tame.failsOn_put (hr : r.Tame details size) (hg : g.Proper size) {k : Nat} {c found : Cell}
    (hc : g.cells[k]? = some c) (hkept : c.Kept found) (hfalse : r.holdsOn details size found = .ok false) :
    (Rule.implication r).FailsOn details size (g.put k found) := by
  have hput := hg.put hc hkept
  refine ⟨hput, allM_eq_ok_false (x := found) (fun d hd => ?_) ?_ ?_⟩
  · rw [hput.size_eq]
    exact hr.exists_holdsOn (hput.ordinary d hd)
  · exact List.mem_of_getElem? (Grid.getElem?_put_self hc)
  · rw [hput.size_eq]
    exact hfalse

private theorem Tame.quiet_refuteSome (hr : r.Tame details size) (hcell : cell.Ordinary) {actions : List CellAction}
    (hactions : ∀ a ∈ actions, a.Tame details size) :
    Turn.Quiet (r.refuteSome details size cell actions) g fun found g' => g' = g ∧
      ∀ c, found = some c → cell.Kept c ∧ r.holdsOn details size c = .ok false := by
  induction actions with
  | nil => exact .pure ⟨rfl, nofun⟩
  | cons a rest ih =>
    have hrest := ih fun b hb => hactions b (List.mem_cons_of_mem a hb)
    have hrefute := CellAction.quiet_refute (hactions a List.mem_cons_self) hcell
    refine .bind (.aside (Q := fun p g' => g' = g ∧ cell.Kept p.2) (hrefute.mono fun _ _ hkept => ⟨rfl, hkept⟩)) ?_
    rintro ⟨refuted, found⟩ g' ⟨rfl, hkept⟩
    cases refuted with
    | false => exact hrest
    | true =>
      obtain ⟨b, hb⟩ := hr.exists_holdsOn hkept.1
      refine .bind_ofExcept hb ?_
      cases b with
      | true => exact hrest
      | false => exact .pure ⟨rfl, fun c hc => by cases hc; exact ⟨hkept, hb⟩⟩

private theorem Tame.quiet_counterexample (hr : r.Tame details size) (hcell : cell.Ordinary) :
    Turn.Quiet (r.counterexample details size cell) g fun found g' => g' = g ∧
      (∀ c, found = some c → cell.Kept c ∧ r.holdsOn details size c = .ok false) ∧
      (r.Spoils details size cell → found ≠ none) := by
  have hrefute : ¬ r.Spoils details size cell →
      Turn.Quiet (do r.refuteSome details size cell (← shuffle r.actions)) g fun found g' => g' = g ∧
        (∀ c, found = some c → cell.Kept c ∧ r.holdsOn details size c = .ok false) ∧
        (r.Spoils details size cell → found ≠ none) := by
    intro hno
    refine .bind (Q := fun actions g' => actions.Perm r.actions ∧ g' = g) (quiet_shuffle fun _ h => ⟨h, rfl⟩) ?_
    rintro actions g' ⟨hperm, rfl⟩
    refine (hr.quiet_refuteSome hcell fun a ha => hr.actions a (hperm.mem_iff.1 ha)).mono fun found g' h => ?_
    exact ⟨h.1, h.2, fun hspoils => absurd hspoils hno⟩
  dsimp only [counterexample]
  cases hv : r.violation with
  | none =>
    refine hrefute ?_
    rintro ⟨v, hsome, -⟩
    rw [hv] at hsome
    cases hsome
  | some v =>
    have happly := (CellAction.quiet_apply (hr.violation v hv) hcell).and_run
      (P := fun _ c => r.Spoils details size cell → r.holdsOn details size c = .ok false) (by
        rintro luck luck' status c hrun - ⟨w, hw, hspoils⟩
        rw [hv] at hw
        cases hw
        exact hspoils hrun)
    refine .bind (.aside (Q := fun p g' => g' = g ∧ cell.Kept p.2 ∧
      (r.Spoils details size cell → r.holdsOn details size p.2 = .ok false)) (happly.mono fun _ _ h => ⟨rfl, h⟩)) ?_
    rintro ⟨status, found⟩ g' ⟨rfl, hkept, hspoils⟩
    obtain ⟨b, hb⟩ := hr.exists_holdsOn hkept.1
    refine .bind_ofExcept hb ?_
    cases b with
    | false => exact .pure ⟨rfl, fun c hc => by cases hc; exact ⟨hkept, hb⟩, fun _ => nofun⟩
    | true =>
      refine hrefute fun h => ?_
      rw [hspoils h] at hb
      cases hb

private theorem Tame.quiet_violateWitness (hr : r.Tame details size) (hg : g.Proper size)
    (hcells : ∀ p ∈ cells, g.cells[p.2]? = some p.1) :
    Turn.Quiet (r.violateWitness details size cells) g fun done g' =>
      (done = true → (Rule.implication r).FailsOn details size g') ∧ (done = false → g' = g) := by
  induction cells with
  | nil => exact .pure ⟨nofun, fun _ => rfl⟩
  | cons p rest ih =>
    have hc := hcells p List.mem_cons_self
    refine .bind (hr.quiet_counterexample (hg.ordinary_of_getElem? hc)) ?_
    rintro found g' ⟨rfl, hfound, -⟩
    cases found with
    | none => exact ih fun q hq => hcells q (List.mem_cons_of_mem p hq)
    | some c =>
      obtain ⟨hkept, hfalse⟩ := hfound c rfl
      exact .bind_commit hc hkept.2 (.pure ⟨fun _ => hr.failsOn_put hg hc hkept hfalse, nofun⟩)

/-- When a search among cells is done the rule fails, and a cell that can refute the rule ends the search. -/
private def Searched (r : Implication) (details : Details) (size : Int) (cells : List (Cell × Nat)) (done : Bool)
    (g : Grid) : Prop :=
  (done = true → (Rule.implication r).FailsOn details size g) ∧
    ((∃ p ∈ cells, r.Refutable details size p.1) → done = true)

private theorem Searched.cons {p : Cell × Nat} {done : Bool} (h : r.Searched details size cells done g)
    (hno : ¬ r.Refutable details size p.1) : r.Searched details size (p :: cells) done g := by
  refine ⟨h.1, ?_⟩
  rintro ⟨q, hq, hrefutable⟩
  rcases List.mem_cons.1 hq with rfl | hq
  · exact absurd hrefutable hno
  · exact h.2 ⟨q, hq, hrefutable⟩

private theorem Tame.quiet_commitFound (hr : r.Tame details size) (hg : g.Proper size) {k : Nat} {c found : Cell}
    (hc : g.cells[k]? = some c) (hkept : c.Kept found) (hfalse : r.holdsOn details size found = .ok false) :
    Turn.Quiet (do Turn.commit k found; return true) g (r.Searched details size cells) :=
  .bind_commit hc hkept.2 (.pure ⟨fun _ => hr.failsOn_put hg hc hkept hfalse, fun _ => rfl⟩)

private theorem Tame.quiet_violateForced (hr : r.Tame details size) (hg : g.Proper size)
    (hcells : ∀ p ∈ cells, g.cells[p.2]? = some p.1) :
    Turn.Quiet (r.violateForced details size cells) g (r.Searched details size cells) := by
  induction cells with
  | nil => exact .pure ⟨nofun, by simp⟩
  | cons p rest ih =>
    have hc := hcells p List.mem_cons_self
    have hrest : ¬ r.Refutable details size p.1 →
        Turn.Quiet (r.violateForced details size rest) g (r.Searched details size (p :: rest)) :=
      fun hno => (ih fun q hq => hcells q (List.mem_cons_of_mem p hq)).mono fun _ _ h => h.cons hno
    dsimp only [violateForced]
    refine .bind (quiet_forcedAside hr.antecedent (hg.ordinary_of_getElem? hc)) ?_
    rintro forced g' ⟨rfl, htakes, hforced⟩
    cases forced with
    | none => exact hrest fun h => htakes h.1 rfl
    | some c =>
      obtain ⟨hkept, he⟩ := hforced c rfl
      obtain ⟨b, hb⟩ := hr.exists_holdsOn hkept.1
      refine .bind_ofExcept hb ?_
      cases b with
      | false => exact hr.quiet_commitFound hg hc hkept hb
      | true =>
        refine .bind (hr.quiet_counterexample hkept.1) ?_
        rintro found g'' ⟨rfl, hfound, hspoils⟩
        cases found with
        | some d =>
          obtain ⟨hkept', hfalse⟩ := hfound d rfl
          exact hr.quiet_commitFound hg hc (hkept.trans hkept') hfalse
        | none =>
          refine hrest fun hrefutable => ?_
          rcases hrefutable.2 c hkept he with hfalse | hspoiled
          · rw [hb] at hfalse
            cases hfalse
          · exact hspoils hspoiled rfl

private theorem Tame.exists_witnesses (hr : r.Tame details size) (hcells : ∀ p ∈ cells, p.1.Ordinary) :
    ∃ ws, r.witnesses details size cells = .ok ws ∧ ∀ p ∈ ws, p ∈ cells := by
  induction cells with
  | nil => exact ⟨[], rfl, by simp⟩
  | cons p rest ih =>
    obtain ⟨hp, hrest⟩ := List.forall_mem_cons.1 hcells
    obtain ⟨ws, hws, hmem⟩ := ih hrest
    have hwitness : ∃ b, r.isWitness details size p.1 = .ok b := by
      obtain ⟨b, hb⟩ := hr.antecedent.exists_evaluate hp
      obtain ⟨b', hb'⟩ := exists_allM fun a ha => CellAction.exists_holds (hr.actions a ha) hp
      cases b with
      | true => exact ⟨b', by simp only [isWitness, hb]; exact hb'⟩
      | false => exact ⟨false, by simp only [isWitness, hb]; rfl⟩
    obtain ⟨b, hb⟩ := hwitness
    refine ⟨if b then p :: ws else ws, by simp only [witnesses, hb, hws]; rfl, fun q hq => ?_⟩
    cases b with
    | true => exact List.mem_cons.2 ((List.mem_cons.1 hq).imp_right (hmem q))
    | false => exact List.mem_cons_of_mem p (hmem q hq)

/-- Sorting the cells by region loses none. -/
private theorem Tame.exists_byRegion (hr : r.Tame details size) (hcells : ∀ p ∈ cells, p.1.Ordinary) :
    ∃ outs ins, r.byRegion details size cells = .ok (outs, ins) ∧ (outs ++ ins).Perm cells := by
  induction cells with
  | nil => exact ⟨[], [], rfl, .refl _⟩
  | cons p rest ih =>
    obtain ⟨hp, hrest⟩ := List.forall_mem_cons.1 hcells
    obtain ⟨outs, ins, hsplit, hperm⟩ := ih hrest
    have hregions : ∃ b, r.regionsHold details size p.1 = .ok b :=
      exists_allM fun a ha => CellAction.exists_holds (hr.actions a (List.mem_filter.1 ha).1) hp
    obtain ⟨b, hb⟩ := hregions
    cases b with
    | true =>
      refine ⟨outs, p :: ins, by simp only [byRegion, hb, hsplit]; rfl, ?_⟩
      exact List.perm_middle.trans (hperm.cons p)
    | false => exact ⟨p :: outs, ins, by simp only [byRegion, hb, hsplit]; rfl, hperm.cons p⟩

/-- A tame implication that some cell of a proper grid can refute is violated quietly, and then it fails. -/
theorem Tame.quiet_violate (hr : r.Tame details size) (hg : g.Proper size)
    (hrefutable : ∃ c ∈ g.cells, r.Refutable details size c) :
    Turn.Quiet (r.violate details) g fun _ g' => (Rule.implication r).FailsOn details size g' := by
  have hnumbered : ∀ p ∈ g.numbered, g.cells[p.2]? = some p.1 := fun _ hp => Grid.mem_numbered.1 hp
  have hordinary : ∀ p ∈ g.numbered, p.1.Ordinary := fun p hp => hg.ordinary_of_getElem? (hnumbered p hp)
  refine .bind_subject ?_
  rw [hg.size_eq]
  obtain ⟨ws, hws, hmem⟩ := hr.exists_witnesses hordinary
  refine .bind_ofExcept hws ?_
  refine .bind (Q := fun cells g' => cells.Perm ws ∧ g' = g) (quiet_shuffle fun _ h => ⟨h, rfl⟩) ?_
  rintro found g' ⟨hfound, rfl⟩
  refine .bind (hr.quiet_violateWitness hg fun p hp => hnumbered p (hmem p (hfound.mem_iff.1 hp))) ?_
  rintro done g'' ⟨hfails, hsame⟩
  cases done with
  | true => exact .pure (hfails rfl)
  | false =>
    obtain rfl := hsame rfl
    refine .bind (Q := fun cells g' => cells.Perm g''.numbered ∧ g' = g'') (quiet_shuffle fun _ h => ⟨h, rfl⟩) ?_
    rintro cells g' ⟨hcells, rfl⟩
    obtain ⟨outs, ins, hsplit, hperm⟩ := hr.exists_byRegion fun p hp => hordinary p (hcells.mem_iff.1 hp)
    have hall := hperm.trans hcells
    refine .bind_ofExcept hsplit ?_
    refine .bind (hr.quiet_violateForced hg fun p hp => hnumbered p (hall.mem_iff.1 hp)) ?_
    rintro done g'' ⟨hfails, hdone⟩
    obtain ⟨c, hc, hrefutable⟩ := hrefutable
    obtain ⟨k, hk⟩ := List.getElem?_of_mem hc
    obtain rfl := hdone ⟨(c, k), hall.mem_iff.2 (Grid.mem_numbered.2 hk), hrefutable⟩
    exact .pure (hfails rfl)

end Implication

namespace Requirement
variable {r : Requirement} {neighbor : Cell} {k : Nat}

/-- The antecedent can be forced onto every cell, and the violation declared spoils every neighbor. -/
structure Refutable (r : Requirement) (details : Details) (size : Int) : Prop where
  takes : ∀ cell : Cell, cell.Ordinary → Condition.Takes? details size r.antecedent cell
  spoils : ∃ spoil, r.neighbor.violation = some spoil ∧ spoil.Tame details size ∧
    ∀ {cell neighbor neighbor' : Cell} {luck luck' : Luck} {status : Status}, cell.Ordinary → neighbor.Ordinary →
      (spoil.apply cell details size) (neighbor, luck) = .ok status (neighbor', luck') →
      r.conditionsHold details size cell neighbor' = .ok false

private theorem Tame.failsOn_of_holdsOn (hr : r.Tame details size) (hg : g.Proper size)
    (hc : g.cells[k]? = some cell) (hfalse : r.holdsOn details g cell = .ok false) :
    (Rule.requirement r).FailsOn details size g :=
  ⟨hg, allM_eq_ok_false (fun d hd => hr.exists_holdsOn hg (hg.ordinary d hd)) (List.mem_of_getElem? hc) hfalse⟩

theorem holdsOn_eq_ok_false
    (hantecedent : Condition.evaluate? (cell.context details g.size) r.antecedent = .ok true)
    (h : r.neighbor? details g cell = .ok none ∨ ∃ neighbor j, r.neighbor? details g cell = .ok (some (neighbor, j)) ∧
      r.conditionsHold details g.size cell neighbor = .ok false) : r.holdsOn details g cell = .ok false := by
  simp only [holdsOn, hantecedent]
  rcases h with hnone | ⟨neighbor, j, hsome, hfalse⟩
  · rw [except_bind_eq_ok]
    exact ⟨true, rfl, except_bind_eq_ok.2 ⟨none, hnone, rfl⟩⟩
  · rw [except_bind_eq_ok]
    exact ⟨true, rfl, except_bind_eq_ok.2 ⟨_, hsome, hfalse⟩⟩

private theorem Tame.exists_witnesses (hr : r.Tame details size) (hg : g.Proper size) {cells : List (Cell × Nat)}
    (hcells : ∀ p ∈ cells, p.1.Ordinary) :
    ∃ ws, r.witnesses details g cells = .ok ws ∧
      ∀ w ∈ ws, w.1 ∈ cells ∧ ∃ neighbor, r.neighbor? details g w.1.1 = .ok (some (neighbor, w.2)) := by
  induction cells with
  | nil => exact ⟨[], rfl, by simp⟩
  | cons p rest ih =>
    obtain ⟨c, k⟩ := p
    obtain ⟨hc, hrest⟩ := List.forall_mem_cons.1 hcells
    obtain ⟨ws, hws, hmem⟩ := ih hrest
    have hskip : ∀ w ∈ ws, w.1 ∈ (c, k) :: rest ∧
        ∃ neighbor, r.neighbor? details g w.1.1 = .ok (some (neighbor, w.2)) :=
      fun w hw => ⟨List.mem_cons_of_mem _ (hmem w hw).1, (hmem w hw).2⟩
    obtain ⟨b, hb⟩ := hr.antecedent.exists_evaluate hc
    rw [← hg.size_eq] at hb
    cases b with
    | false => exact ⟨ws, by simp only [witnesses, hb, hws]; rfl, hskip⟩
    | true =>
      obtain ⟨x, hx⟩ := hr.exists_neighbor? g c
      cases x with
      | none => exact ⟨ws, by simp only [witnesses, hb, hx, hws]; rfl, hskip⟩
      | some p =>
        obtain ⟨n, j⟩ := p
        obtain ⟨b, hcond⟩ := hr.conditions c n hc (hg.ordinary_of_getElem? (neighbor?_eq_ok_some.1 hx).2)
        rw [← hg.size_eq] at hcond
        cases b with
        | false => exact ⟨ws, by simp [witnesses, hb, hx, hcond, hws, bind, Except.bind, pure, Except.pure], hskip⟩
        | true =>
          refine ⟨((c, k), j) :: ws, by simp [witnesses, hb, hx, hcond, hws, bind, Except.bind, pure, Except.pure], ?_⟩
          exact List.forall_mem_cons.2 ⟨⟨List.mem_cons_self, n, hx⟩, hskip⟩

private theorem Tame.quiet_spoilWitness (hr : r.Tame details size) (hg : g.Proper size) {spoil : NeighborAction}
    (hspoil : spoil.Tame details size) {found : List ((Cell × Nat) × Nat)} (hne : found ≠ [])
    (hfound : ∀ w ∈ found, g.cells[w.1.2]? = some w.1.1 ∧
      ∃ neighbor, r.neighbor? details g w.1.1 = .ok (some (neighbor, w.2))) :
    Turn.Quiet (r.spoilWitness details size spoil found) g fun done g' => g'.Proper size ∧
      (done = true → (Rule.requirement r).FailsOn details size g') := by
  refine .bind (Q := fun w g' => w ∈ found ∧ g' = g) (quiet_pick hne fun w hw => ⟨hw, rfl⟩) ?_
  rintro ⟨⟨c, k⟩, j⟩ g' ⟨hw, rfl⟩
  obtain ⟨hc, n, hx⟩ := hfound _ hw
  obtain ⟨hj, hn⟩ := neighbor?_eq_ok_some.1 hx
  have hcell := hg.ordinary_of_getElem? hc
  refine .bind (Q := fun _ g'' => g''.Proper size ∧ g''.cells[k]? = some c) (.atCell hn ?_) ?_
  · have happly := NeighborAction.quiet_apply hspoil hcell (hg.ordinary_of_getElem? hn)
    refine happly.mono fun _ n' hkept => ⟨hg.put hn hkept, ?_⟩
    rw [Grid.getElem?_put_of_ne (neighbor_ne hg.rowMajor hc hj).symm]
    exact hc
  · rintro y g'' ⟨hg'', hc''⟩
    obtain ⟨b, hb⟩ := hr.exists_holdsOn hg'' hcell
    refine .bind_subject (.bind_ofExcept hb (.pure ⟨hg'', fun hdone => hr.failsOn_of_holdsOn hg'' hc'' ?_⟩))
    rw [hb]
    simpa using hdone

private theorem Tame.quiet_spoilNeighbor (hr : r.Tame details size) (hrefutable : r.Refutable details size)
    (hcell : cell.Ordinary) (hneighbor : neighbor.Ordinary) :
    Turn.Quiet (r.spoilNeighbor details size cell) neighbor fun _ spoilt => neighbor.Kept spoilt ∧
      r.conditionsHold details size cell spoilt = .ok false := by
  obtain ⟨spoil, hviolation, hspoil, hspoils⟩ := hrefutable.spoils
  refine .bind (quiet_satisfyNeighbor hr.actions hcell hneighbor) fun _ n hkept => ?_
  rw [hviolation]
  refine .bind ((NeighborAction.quiet_apply hspoil hcell hkept.1).and_run (P := fun _ spoilt =>
    r.conditionsHold details size cell spoilt = .ok false) fun hrun _ => hspoils hcell hkept.1 hrun) ?_
  rintro status spoilt ⟨hkept', hfalse⟩
  exact .pure ⟨hkept.trans hkept', hfalse⟩

section Forced
variable {forced n spoilt : Cell} {j : Nat}

/-- A cell that meets the antecedent and has no neighbor is a counterexample. -/
private theorem Tame.failsOn_alone (hr : r.Tame details size) (hg : g.Proper size) (hc : g.cells[k]? = some cell)
    (hkept : cell.Kept forced) (he : Condition.evaluate? (forced.context details size) r.antecedent = .ok true)
    (hx : r.neighborIndex? details g forced = .ok none) :
    r.neighbor? details g forced = .ok none ∧ (Rule.requirement r).FailsOn details size (g.put k forced) := by
  have halone : ∀ {g' : Grid}, g'.size = g.size → r.neighbor? details g' forced = .ok none := by
    intro g' hsize
    rw [← neighborIndex?_congr hr.straight hsize rfl] at hx
    simp only [neighbor?, hx]
    rfl
  have hput := hg.put hc hkept
  refine ⟨halone rfl, hr.failsOn_of_holdsOn hput (Grid.getElem?_put_self hc) (holdsOn_eq_ok_false ?_ (.inl (halone rfl)))⟩
  rw [hput.size_eq]
  exact he

/-- So is one whose neighbor was spoilt; the neighbor is another cell. -/
private theorem Tame.failsOn_spoilt (hr : r.Tame details size) (hg : g.Proper size) (hc : g.cells[k]? = some cell)
    (hkept : cell.Kept forced) (he : Condition.evaluate? (forced.context details size) r.antecedent = .ok true)
    (hx : r.neighborIndex? details g forced = .ok (some j)) (hn : g.cells[j]? = some n) (hspoilt : n.Kept spoilt)
    (hfalse : r.conditionsHold details size forced spoilt = .ok false) :
    (g.put k forced).cells[j]? = some n ∧
      (Rule.requirement r).FailsOn details size ((g.put k forced).put j spoilt) := by
  have hjk : j ≠ k := neighbor_ne hg.rowMajor hc ((neighborIndex?_congr hr.straight rfl hkept.2).symm.trans hx)
  have hn' : (g.put k forced).cells[j]? = some n := by
    rw [Grid.getElem?_put_of_ne hjk]
    exact hn
  have hforced : ((g.put k forced).put j spoilt).cells[k]? = some forced := by
    rw [Grid.getElem?_put_of_ne hjk.symm]
    exact Grid.getElem?_put_self hc
  have hproper := (hg.put hc hkept).put hn' hspoilt
  have hneighbor : r.neighbor? details ((g.put k forced).put j spoilt) forced = .ok (some (spoilt, j)) :=
    neighbor?_eq_ok_some.2 ⟨(neighborIndex?_congr hr.straight rfl rfl).trans hx, Grid.getElem?_put_self hn'⟩
  refine ⟨hn', hr.failsOn_of_holdsOn hproper hforced (holdsOn_eq_ok_false ?_ (.inr ⟨spoilt, j, hneighbor, ?_⟩))⟩
  · rw [hproper.size_eq]
    exact he
  · rw [hproper.size_eq]
    exact hfalse

/-- The first cell tried becomes a counterexample. -/
private theorem Tame.quiet_violateForced (hr : r.Tame details size) (hrefutable : r.Refutable details size)
    (hg : g.Proper size) {cells : List (Cell × Nat)} (hne : cells ≠ [])
    (hcells : ∀ p ∈ cells, g.cells[p.2]? = some p.1) :
    Turn.Quiet (r.violateForced details cells) g fun done g' =>
      done = true ∧ (Rule.requirement r).FailsOn details size g' := by
  cases cells with
  | nil => exact absurd rfl hne
  | cons p rest =>
    obtain ⟨c, k⟩ := p
    have hc := hcells _ List.mem_cons_self
    have hcell := hg.ordinary_of_getElem? hc
    refine .bind_subject ?_
    rw [hg.size_eq]
    refine .bind (quiet_forcedAside hr.antecedent hcell) ?_
    rintro forced g' ⟨rfl, htakes, hforced⟩
    cases forced with
    | none => exact absurd rfl (htakes (hrefutable.takes c hcell))
    | some forced =>
      obtain ⟨hkept, he⟩ := hforced forced rfl
      obtain ⟨x, hx, hsome⟩ := hr.exists_neighborIndex? g' forced
      cases x with
      | none =>
        obtain ⟨halone, hfails⟩ := hr.failsOn_alone hg hc hkept he hx
        exact .bind_ofExcept halone (.bind_commit hc hkept.2 (.pure ⟨rfl, hfails⟩))
      | some j =>
        obtain ⟨n, hn⟩ := hsome j rfl
        have hnj := (neighbor?_eq_ok_some.1 hn).2
        have hspoil := hr.quiet_spoilNeighbor hrefutable hkept.1 (hg.ordinary_of_getElem? hnj)
        refine .bind_ofExcept hn (.bind (.aside (Q := fun p g'' => g'' = g' ∧ n.Kept p.2 ∧
          r.conditionsHold details size forced p.2 = .ok false) (hspoil.mono fun _ _ h => ⟨rfl, h⟩)) ?_)
        rintro ⟨u, spoilt⟩ g'' ⟨rfl, hkept', hfalse⟩
        obtain ⟨hnj', hfails⟩ := hr.failsOn_spoilt hg hc hkept he hx hnj hkept' hfalse
        refine .bind_ofExcept hfalse ?_
        exact .bind_commit hc hkept.2 (.bind_commit hnj' hkept'.2 (.pure ⟨rfl, hfails⟩))

end Forced

/-- A tame violation of a witness makes the requirement fail or keeps the grid proper. -/
private theorem Tame.quiet_violateWitness (hr : r.Tame details size) (hrefutable : r.Refutable details size)
    (hg : g.Proper size) :
    Turn.Quiet (r.violateWitness details) g fun done g' =>
      g'.Proper size ∧ (done = true → (Rule.requirement r).FailsOn details size g') := by
  have hordinary : ∀ p ∈ g.numbered, p.1.Ordinary := fun p hp => hg.ordinary_of_getElem? (Grid.mem_numbered.1 hp)
  obtain ⟨ws, hws, hmem⟩ := hr.exists_witnesses hg hordinary
  obtain ⟨spoil, hviolation, hspoil, -⟩ := hrefutable.spoils
  refine .bind_subject (.bind_ofExcept hws ?_)
  rw [hviolation]
  dsimp only
  cases ws with
  | nil => exact .pure ⟨hg, nofun⟩
  | cons w ws =>
    rw [hg.size_eq]
    exact hr.quiet_spoilWitness hg hspoil (by simp) fun w hw => ⟨Grid.mem_numbered.1 (hmem w hw).1, (hmem w hw).2⟩

private theorem Tame.quiet_violateElsewhere (hr : r.Tame details size) (hrefutable : r.Refutable details size)
    (hg : g.Proper size) (hsize : 0 < size) :
    Turn.Quiet (r.violateElsewhere details) g fun _ g' => (Rule.requirement r).FailsOn details size g' := by
  obtain ⟨spoil, hviolation, -, -⟩ := hrefutable.spoils
  refine .bind_subject (.bind (Q := fun cells g' => cells.Perm g.numbered ∧ g' = g)
    (quiet_shuffle fun _ h => ⟨h, rfl⟩) ?_)
  rintro cells g' ⟨hperm, rfl⟩
  have hcandidates : r.candidates details g' cells = .ok cells := by simp [candidates, hviolation]
  have hne : cells ≠ [] := by
    obtain ⟨c, hc, -⟩ := hg.exists_cell (k := 0) (by simpa using Int.mul_pos hsize hsize)
    exact List.ne_nil_of_mem (hperm.mem_iff.2 (Grid.mem_numbered.2 hc))
  refine .bind_ofExcept hcandidates ?_
  refine .bind (hr.quiet_violateForced hrefutable hg hne fun p hp => Grid.mem_numbered.1 (hperm.mem_iff.1 hp)) ?_
  rintro done g₁ ⟨rfl, hfails⟩
  exact .pure hfails

/-- A tame requirement that every cell can refute is violated quietly on a grid with cells, and then it fails. -/
theorem Tame.quiet_violate (hr : r.Tame details size) (hrefutable : r.Refutable details size) (hg : g.Proper size)
    (hsize : 0 < size) :
    Turn.Quiet (r.violate details) g fun _ g' => (Rule.requirement r).FailsOn details size g' := by
  rw [violate_eq]
  refine .bind (hr.quiet_violateWitness hrefutable hg) ?_
  rintro done g' ⟨hg', hfails⟩
  cases done with
  | true => exact .pure (hfails rfl)
  | false => exact hr.quiet_violateElsewhere hrefutable hg' hsize

end Requirement

namespace Rule
variable {rule : Rule}

/-- Every cell can refute a requirement; for an implication there is some place where all cells can. -/
def Refutable (details : Details) (size : Int) : Rule → Prop
  | implication r => ∃ p : Position, (0 ≤ p.row ∧ p.row < size) ∧ (0 ≤ p.col ∧ p.col < size) ∧
      ∀ cell : Cell, cell.Ordinary → cell.position = p → r.Refutable details size cell
  | requirement r => r.Refutable details size

/-- A tame rule that can be refuted is violated without a fault and without a complaint, and then it fails. -/
theorem Tame.quiet_violate (hr : rule.Tame details size) (hrefutable : rule.Refutable details size)
    (hg : g.Proper size) (hsize : 0 < size) :
    Turn.Quiet (rule.violate details) g fun _ g' => rule.FailsOn details size g' := by
  cases rule with
  | implication r =>
    obtain ⟨p, hrow, hcol, hcells⟩ := hrefutable
    obtain ⟨c, hc, hpos⟩ := hg.exists_at hrow hcol
    exact Implication.Tame.quiet_violate hr hg ⟨c, hc, hcells c (hg.ordinary c hc) hpos⟩
  | requirement r => exact Requirement.Tame.quiet_violate hr hrefutable hg hsize

end Rule
end ShapePuzzle
