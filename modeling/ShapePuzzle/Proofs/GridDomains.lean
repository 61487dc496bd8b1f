import ShapePuzzle.Proofs.CellDomains
import ShapePuzzle.Proofs.RandomGrids
import ShapePuzzle.Proofs.ViolatedRules

/-!
# Grids stay within the domains

Enforcing and violating rules that write only values of the domains keeps every cell in its place with values of
the domains. That holds call after call, for all draws, and for calls that stop with a fault half way.
-/
namespace ShapePuzzle
variable {details : Details} {size : Int} {cell : Cell} {g g₀ : Grid} {k : Nat}

/-- A grid of as many cells and the same size, where each cell stayed in its place and has values of the domains. -/
structure Grid.Kept (g g' : Grid) : Prop where
  size : g'.size = g.size
  count : g'.cells.length = g.cells.length
  cell : ∀ ⦃k : Nat⦄ ⦃c' : Cell⦄, g'.cells[k]? = some c' → ∃ c, g.cells[k]? = some c ∧ c.Kept c'

namespace Grid

theorem Ordinary.kept (hg : g.Ordinary) : g.Kept g :=
  ⟨rfl, rfl, fun _ c hc => ⟨c, hc, .refl (hg c (List.mem_of_getElem? hc))⟩⟩

namespace Kept

theorem ordinary (h : g₀.Kept g) : g.Ordinary := by
  intro c hc
  obtain ⟨k, hk⟩ := List.mem_iff_getElem?.1 hc
  obtain ⟨_, -, hkept⟩ := h.cell hk
  exact hkept.1

theorem ordinary_numbered (h : g₀.Kept g) : ∀ p ∈ g.numbered, p.1.Ordinary :=
  fun _ hp => h.ordinary _ (List.mem_of_getElem? (mem_numbered.1 hp))

theorem trans {g' : Grid} (h : g₀.Kept g) (h' : g.Kept g') : g₀.Kept g' := by
  refine ⟨h'.size.trans h.size, h'.count.trans h.count, fun k c' hc' => ?_⟩
  obtain ⟨c, hc, hkept'⟩ := h'.cell hc'
  obtain ⟨c₀, hc₀, hkept⟩ := h.cell hc
  exact ⟨c₀, hc₀, hkept.trans hkept'⟩

/-- Row by row the cells stand as before. -/
theorem rowMajor (h : g₀.Kept g) (hg : g₀.RowMajor) : g.RowMajor := by
  intro k c hc
  obtain ⟨c₀, hc₀, hkept⟩ := h.cell hc
  rw [hkept.2, hg hc₀, h.size]

theorem put (h : g₀.Kept g) {c c' : Cell} (hc : g.cells[k]? = some c) (hkept : c.Kept c') :
    g₀.Kept (g.put k c') := by
  refine ⟨h.size, by rw [cells_put, List.length_set, h.count], fun j d hd => ?_⟩
  by_cases hj : j = k
  · subst hj
    rw [getElem?_put_self hc] at hd
    cases hd
    obtain ⟨c₀, hc₀, hkept₀⟩ := h.cell hc
    exact ⟨c₀, hc₀, hkept₀.trans hkept⟩
  · rw [getElem?_put_of_ne hj] at hd
    exact h.cell hd

end Kept
end Grid

namespace Turn.Preserves

theorem atCell {α : Type} {work : Turn Cell α} {Q : α → Prop}
    (h : ∀ c : Cell, c.Ordinary → Turn.Preserves c.Kept work Q) :
    Turn.Preserves g₀.Kept (Turn.atCell k work) fun _ => True := by
  intro st hg
  refine .atCell (fun _ => ⟨hg, trivial⟩) fun c hc => ?_
  have hcell : c.Ordinary := hg.ordinary c (List.mem_of_getElem? hc)
  have hwork := @h c hcell (c, st.2) (.refl hcell)
  exact hwork.mono (fun _ _ hkept => ⟨hg.put hc hkept.1, trivial⟩) fun _ _ hkept => hg.put hc hkept

/-- Only the place of the cell that is kept is its own. -/
theorem commit {found : Cell} (hfound : found.Ordinary) :
    Turn.Preserves g₀.Kept (Turn.commit k found) fun _ => True := by
  intro st hg
  refine ⟨?_, trivial⟩
  dsimp only
  cases hc : st.1.cells[k]? with
  | none => exact hg
  | some c => exact hg.put hc ⟨fun p => by cases p <;> exact hfound _, rfl⟩

end Turn.Preserves

theorem preserves_forcedAside {antecedent : Option Condition} (hcell : cell.Ordinary) :
    Turn.Preserves g₀.Kept (forcedAside antecedent details size cell) fun o => ∀ c ∈ o, c.Ordinary := by
  refine .bind (.aside (Condition.preserves_force? antecedent) (Cell.Kept.refl hcell)) fun p hp => ?_
  obtain ⟨b, forced⟩ := p
  cases b with
  | false => exact .pure (by simp)
  | true =>
    refine .pure ?_
    rintro c ⟨⟩
    exact hp.2.1

namespace Implication

/-- What the rule writes is of the domain of what is written. -/
structure Fits (details : Details) (r : Implication) : Prop where
  actions : ∀ a ∈ r.actions, a.FitsBothWays details
  breakAntecedent : ∀ a, r.breakAntecedent = some a → a.Fits details
  violation : ∀ a, r.violation = some a → a.Fits details

variable {r : Implication}

theorem preserves_runActions {c : Cell} {actions : List CellAction} (ha : ∀ a ∈ actions, a.Fits details)
    (hbreak : ∀ a, r.breakAntecedent = some a → a.Fits details) :
    Turn.Preserves c.Kept (r.runActions details size actions) fun _ => True := by
  induction actions with
  | nil => exact .pure trivial
  | cons a rest ih =>
    obtain ⟨hfirst, hrest⟩ := List.forall_mem_cons.1 ha
    refine .bind (CellAction.preserves_apply hfirst) fun status _ => ?_
    cases status with
    | applied => exact ih hrest
    | needsBreak => exact preserves_breakAntecedent hbreak

theorem preserves_enforceCell {c : Cell} (hr : r.Fits details) :
    Turn.Preserves c.Kept (r.enforceCell details size) fun _ => True := by
  refine .bind .subject fun _ _ => .bind (.computed _) fun _ _ => .ite ?_ (.pure trivial)
  exact preserves_runActions (fun a ha => (hr.actions a ha).fits) hr.breakAntecedent

theorem preserves_refuteSome {actions : List CellAction} (ha : ∀ a ∈ actions, a.FitsBothWays details)
    (hcell : cell.Ordinary) :
    Turn.Preserves g₀.Kept (r.refuteSome details size cell actions) fun o => ∀ c ∈ o, c.Ordinary := by
  induction actions with
  | nil => exact .pure (by simp)
  | cons a rest ih =>
    obtain ⟨hfirst, hrest⟩ := List.forall_mem_cons.1 ha
    refine .bind (.aside (CellAction.preserves_refute hfirst) (Cell.Kept.refl hcell)) fun p hp => ?_
    obtain ⟨b, found⟩ := p
    cases b with
    | false => exact ih hrest
    | true =>
      refine .bind (.computed _) fun _ _ => .ite (ih hrest) (.pure ?_)
      rintro c ⟨⟩
      exact hp.2.1

theorem preserves_counterexample (hr : r.Fits details) (hcell : cell.Ordinary) :
    Turn.Preserves g₀.Kept (r.counterexample details size cell) fun o => ∀ c ∈ o, c.Ordinary := by
  have hrefute : Turn.Preserves g₀.Kept (do r.refuteSome details size cell (← shuffle r.actions))
      fun o => ∀ c ∈ o, c.Ordinary :=
    .bind (preserves_shuffle r.actions) fun as has =>
      preserves_refuteSome (fun a ha => hr.actions a (has.mem_iff.1 ha)) hcell
  unfold counterexample
  cases hv : r.violation with
  | none => exact hrefute
  | some v =>
    refine .bind (.aside (CellAction.preserves_apply (hr.violation v hv)) (Cell.Kept.refl hcell)) fun p hp => ?_
    refine .bind (.computed _) fun _ _ => .ite (.pure ?_) hrefute
    rintro c ⟨⟩
    exact hp.2.1

theorem preserves_violateWitness {cells : List (Cell × Nat)} (hr : r.Fits details)
    (hcells : ∀ p ∈ cells, p.1.Ordinary) :
    Turn.Preserves g₀.Kept (r.violateWitness details size cells) fun _ => True := by
  induction cells with
  | nil => exact .pure trivial
  | cons p rest ih =>
    obtain ⟨hcell, hrest⟩ := List.forall_mem_cons.1 hcells
    refine .bind (preserves_counterexample hr hcell) fun o ho => ?_
    cases o with
    | none => exact ih hrest
    | some found => exact .bind (.commit (ho found rfl)) fun _ _ => .pure trivial

theorem preserves_violateForced {cells : List (Cell × Nat)} (hr : r.Fits details)
    (hcells : ∀ p ∈ cells, p.1.Ordinary) :
    Turn.Preserves g₀.Kept (r.violateForced details size cells) fun _ => True := by
  induction cells with
  | nil => exact .pure trivial
  | cons p rest ih =>
    obtain ⟨hcell, hrest⟩ := List.forall_mem_cons.1 hcells
    refine .bind (preserves_forcedAside hcell) fun o ho => ?_
    cases o with
    | none => exact ih hrest
    | some forced =>
      refine .bind (.computed _) fun _ _ => ?_
      -- a cell on which the consequence already fails is kept as it was forced
      refine .ite (.bind (preserves_counterexample hr (ho forced rfl)) ?_)
        (.bind (Q := fun o => ∀ c ∈ o, c.Ordinary) (.pure ho) ?_)
      all_goals
        intro o ho
        cases o with
        | none => exact ih hrest
        | some found => exact .bind (.commit (ho found rfl)) fun _ _ => .pure trivial

theorem preserves_violate (hr : r.Fits details) : Turn.Preserves g₀.Kept (r.violate details) fun _ => True := by
  refine .bind .subject fun g hg => ?_
  refine .bind (.ofExcept fun ws hws => mem_witnesses hws) fun ws hws => ?_
  refine .bind (preserves_shuffle ws) fun found hfound => ?_
  have hfoundCells : ∀ p ∈ found, p.1.Ordinary := fun p hp =>
    hg.ordinary_numbered p ((hws p).1 (hfound.mem_iff.1 hp)).1
  refine .bind (preserves_violateWitness hr hfoundCells) fun _ _ => .ite (.pure trivial) ?_
  refine .bind (preserves_shuffle g.numbered) fun shuffled hshuffled => ?_
  refine .bind (Q := fun q => (q.1 ++ q.2).Perm shuffled)
    (.ofExcept fun q hq => perm_of_byRegion hq) fun q hq => ?_
  have hcells : ∀ p ∈ q.1 ++ q.2, p.1.Ordinary := fun p hp =>
    hg.ordinary_numbered p ((hq.trans hshuffled).mem_iff.1 hp)
  exact .bind (preserves_violateForced hr hcells) fun _ _ => .ite (.pure trivial) (.warn _)

end Implication

namespace Requirement

/-- What the rule writes on a cell or its neighbor is of the domain of what is written. -/
structure Fits (details : Details) (r : Requirement) : Prop where
  satisfy : ∀ a ∈ r.neighbor.satisfy, a.Fits details
  violation : ∀ a, r.neighbor.violation = some a → a.Fits details
  breakAntecedent : ∀ a, r.breakAntecedent = some a → a.Fits details

variable {r : Requirement}

theorem preserves_satisfy (hr : r.Fits details) (hcell : cell.Ordinary) :
    Turn.Preserves g₀.Kept (r.satisfy details cell) fun _ => True := by
  refine .bind .subject fun g _ => .bind (.computed _) fun x _ => ?_
  rcases x with _ | ⟨_, j⟩
  · exact .pure trivial
  · refine .bind (.atCell fun c _ => preserves_satisfyNeighbor hr.satisfy hcell) fun o _ => ?_
    rcases o with _ | _ | _
    · exact .pure trivial
    · exact .pure trivial
    · refine .bind .subject fun g' _ => ?_
      cases g'.cells[j]? with
      | none => exact .pure trivial
      | some neighbor => exact .computed _

theorem preserves_enforceCell (hr : r.Fits details) (hcell : cell.Ordinary) :
    Turn.Preserves g₀.Kept (r.enforceCell details k cell) fun _ => True := by
  refine .bind .subject fun g _ => .bind (.computed _) fun _ _ => .ite ?_ (.pure trivial)
  refine .bind (preserves_satisfy hr hcell) fun _ _ => .ite ?_ (.pure trivial)
  exact .bind (.atCell fun c _ => preserves_breakAntecedent hr.breakAntecedent) fun _ _ => .pure trivial

theorem preserves_spoilWitness {spoil : NeighborAction} (hspoil : spoil.Fits details)
    {found : List ((Cell × Nat) × Nat)} (hfound : ∀ w ∈ found, w.1.1.Ordinary) :
    Turn.Preserves g₀.Kept (r.spoilWitness details size spoil found) fun _ => True := by
  refine .bind (preserves_pick hfound) fun w hw => ?_
  refine .bind (.atCell fun c _ => NeighborAction.preserves_apply hspoil hw) fun _ _ => ?_
  exact .bind .subject fun _ _ => .bind (.computed _) fun _ _ => .pure trivial

theorem preserves_spoilNeighbor {c : Cell} (hr : r.Fits details) (hcell : cell.Ordinary) :
    Turn.Preserves c.Kept (r.spoilNeighbor details size cell) fun _ => True := by
  refine .bind (preserves_satisfyNeighbor hr.satisfy hcell) fun _ _ => ?_
  cases hv : r.neighbor.violation with
  | none => exact .throw _
  | some spoil => exact .bind (NeighborAction.preserves_apply (hr.violation spoil hv) hcell) fun _ _ => .pure trivial

theorem preserves_violateForced {cells : List (Cell × Nat)} (hr : r.Fits details)
    (hcells : ∀ p ∈ cells, p.1.Ordinary) :
    Turn.Preserves g₀.Kept (r.violateForced details cells) fun _ => True := by
  induction cells with
  | nil => exact .pure trivial
  | cons p rest ih =>
    obtain ⟨hcell, hrest⟩ := List.forall_mem_cons.1 hcells
    refine .bind .subject fun g hg => .bind (preserves_forcedAside hcell) fun o ho => ?_
    cases o with
    | none => exact ih hrest
    | some forced =>
      have hforced : forced.Ordinary := ho forced rfl
      refine .bind (Q := fun x => ∀ n ∈ x, n.1.Ordinary) (.ofExcept fun x hx n hn => ?_) fun x hx => ?_
      · subst hn
        exact hg.ordinary _ (List.mem_of_getElem? (neighbor?_eq_ok_some.1 hx).2)
      rcases x with _ | ⟨neighbor, j⟩
      · exact .bind (.commit hforced) fun _ _ => .pure trivial
      refine .bind (.aside (preserves_spoilNeighbor hr hforced) (Cell.Kept.refl (hx _ rfl))) fun q hq => ?_
      refine .bind (.computed _) fun _ _ => .ite (ih hrest) ?_
      exact .bind (.commit hforced) fun _ _ => .bind (.commit hq.2.1) fun _ _ => .pure trivial

theorem preserves_violateWitness (hr : r.Fits details) :
    Turn.Preserves g₀.Kept (r.violateWitness details) fun _ => True := by
  refine .bind .subject fun g hg => ?_
  refine .bind (.ofExcept fun ws hws => mem_of_witnesses hws) fun found hfound => ?_
  have hcells : ∀ w ∈ found, w.1.1.Ordinary := fun w hw => hg.ordinary_numbered _ (hfound w hw).1
  cases hv : r.neighbor.violation with
  | none => exact .pure trivial
  | some spoil => exact .ite (.pure trivial) (preserves_spoilWitness (hr.violation spoil hv) hcells)

theorem preserves_violateElsewhere (hr : r.Fits details) :
    Turn.Preserves g₀.Kept (r.violateElsewhere details) fun _ => True := by
  refine .bind .subject fun g hg => .bind (preserves_shuffle g.numbered) fun shuffled hshuffled => ?_
  refine .bind (.ofExcept fun cells hcells => mem_of_candidates hcells) fun cells hcells => ?_
  have hordinary : ∀ p ∈ cells, p.1.Ordinary := fun p hp =>
    hg.ordinary_numbered p (hshuffled.mem_iff.1 (hcells p hp))
  exact .bind (preserves_violateForced hr hordinary) fun _ _ => .ite (.pure trivial) (.warn _)

theorem preserves_violate (hr : r.Fits details) : Turn.Preserves g₀.Kept (r.violate details) fun _ => True := by
  rw [violate_eq]
  exact .bind (preserves_violateWitness hr) fun _ _ => .ite (.pure trivial) (preserves_violateElsewhere hr)

end Requirement

namespace Rule

/-- What the rule writes is of the domain of what is written. -/
def Fits (details : Details) : Rule → Prop
  | implication r => r.Fits details
  | requirement r => r.Fits details

variable {rule : Rule}

theorem preserves_enforceAt (hrule : rule.Fits details) :
    Turn.Preserves g₀.Kept (rule.enforceAt details k) fun _ => True := by
  refine .bind .subject fun g hg => ?_
  cases rule with
  | implication r =>
    exact .bind (.atCell fun c _ => Implication.preserves_enforceCell hrule) fun _ _ => .pure trivial
  | requirement r =>
    cases hc : g.cells[k]? with
    | none => exact .pure trivial
    | some cell => exact Requirement.preserves_enforceCell hrule (hg.ordinary cell (List.mem_of_getElem? hc))

theorem preserves_enforceFrom (hrule : rule.Fits details) (ks : List Nat) :
    Turn.Preserves g₀.Kept (rule.enforceFrom details ks) fun _ => True := by
  induction ks with
  | nil => exact .pure trivial
  | cons k ks ih => exact .bind (preserves_enforceAt hrule) fun _ _ => ih

theorem preserves_enforce (hrule : rule.Fits details) :
    Turn.Preserves g₀.Kept (rule.enforce details) fun _ => True :=
  .bind .subject fun _ _ => preserves_enforceFrom hrule _

theorem preserves_violate (hrule : rule.Fits details) :
    Turn.Preserves g₀.Kept (rule.violate details) fun _ => True := by
  cases rule with
  | implication r => exact Implication.preserves_violate hrule
  | requirement r => exact Requirement.preserves_violate hrule

end Rule

/-- What is done to a grid on behalf of a rule. -/
inductive Call where
  | enforce (rule : Rule)
  | violate (rule : Rule)

namespace Call

def rule : Call → Rule
  | enforce rule | violate rule => rule

def run (details : Details) : Call → Turn Grid Unit
  | enforce rule => rule.enforce details
  | violate rule => rule.violate details

/-- The grid that a call leaves, whether it returned or stopped with a fault. -/
def leaves (details : Details) (call : Call) (g : Grid) (luck : Luck) : Grid :=
  match call.run details (g, luck) with
  | .ok _ st | .error _ st => st.1

/-- What calls come to one after the other, each with any luck and on the grid that the one before has left. -/
inductive Leads (details : Details) : List Call → Grid → Grid → Prop where
  | done (g : Grid) : Leads details [] g g
  | call {call : Call} {calls : List Call} {g g' : Grid} (luck : Luck) :
    Leads details calls (call.leaves details g luck) g' → Leads details (call :: calls) g g'

variable {call : Call}

theorem kept_leaves (hcall : call.rule.Fits details) (hg : g.Ordinary) (luck : Luck) :
    g.Kept (call.leaves details g luck) := by
  have hrun : Turn.Preserves g.Kept (call.run details) fun _ => True := by
    cases call with
    | enforce rule => exact Rule.preserves_enforce hcall
    | violate rule => exact Rule.preserves_violate hcall
  have hmeets := @hrun (g, luck) hg.kept
  unfold leaves
  cases h : call.run details (g, luck) with
  | ok u st => exact (hmeets.ok h).1
  | error e st => exact hmeets.error h

/-- However rules are enforced and violated in turn, the cells stay in their places with values of the domains if
that is where they began and what the rules write is of the domains. -/
theorem kept_of_leads {calls : List Call} {g g' : Grid} (hcalls : ∀ call ∈ calls, call.rule.Fits details)
    (hg : g.Ordinary) (h : Leads details calls g g') : g.Kept g' := by
  induction h with
  | done g => exact hg.kept
  | call luck _ ih =>
    obtain ⟨hfirst, hrest⟩ := List.forall_mem_cons.1 hcalls
    have hleaves := kept_leaves hfirst hg luck
    exact hleaves.trans (ih hrest hleaves.ordinary)

end Call

/-- Squares are to have the tone and the count that the details give; a square of another tone breaks that. -/
def Implication.squaresTake : Implication where
  antecedent := some (.compare .equals (.cellProperty .shape) (.constant (.text "square")))
  actions := [.set .color (.placeholder "tone"), .set .number (.placeholder "count")]
  breakAntecedent := some (.setDistinct .shape "tone")
  violation := some (.setDistinct .color "tone")

namespace Call

def circlesThenSquares : List Call :=
  [.violate (.requirement .circlesNeedGreen), .enforce (.implication .squaresTake)]

def pinkSquares : Grid := Requirement.pairOfRows ("square", "#ff82a9") ("square", "#ff82a9")

def greenTone : Details := [("tone", .text "#7ed957")]

private theorem ordinary_pinkSquares : pinkSquares.Ordinary := by
  simp only [pinkSquares, Requirement.pairOfRows, Grid.Ordinary, List.forall_mem_cons, List.not_mem_nil,
    false_imp_iff, implies_true, and_true]
  refine ⟨?_, ?_, ?_, ?_⟩ <;> intro p <;> cases p <;>
    simp [Cell.get, Property.domain, shapes, colors, palette, Fields.keys, numbers]

private theorem fits_circlesThenSquares : ∀ call ∈ circlesThenSquares, call.rule.Fits greenTone := by
  have htone : Ref.Fits greenTone .color (.placeholder "tone") := by
    rintro v ⟨⟩
    simp [Property.domain, colors, palette, Fields.keys]
  have hcount : Ref.Fits greenTone .number (.placeholder "count") := by
    rintro v ⟨⟩
  have hconstant : ∀ {p : Property} {v : Value}, v ∈ p.domain → Ref.Fits greenTone p (.constant v) := fun hv => hv
  refine List.forall_mem_cons.2 ⟨⟨?_, ?_, ?_⟩, List.forall_mem_singleton.2 ⟨?_, ?_, ?_⟩⟩
  · exact List.forall_mem_singleton.2 (hconstant (by simp [Property.domain, colors, palette, Fields.keys]))
  · rintro _ ⟨⟩
    exact hconstant (by simp [Property.domain, colors, palette, Fields.keys])
  · rintro _ ⟨⟩
    exact hconstant (by simp [Property.domain, shapes])
  · exact List.forall_mem_cons.2 ⟨htone, List.forall_mem_singleton.2 hcount⟩
  · rintro _ ⟨⟩
    trivial
  · rintro _ ⟨⟩
    trivial

/-- A circle is put on a grid of squares, and without a count the rule for squares stops once a square has its tone:
all cells are still in their places with values of the domains. -/
theorem kept_of_leads_pinkSquares : ∃ g g',
    (violate (.requirement .circlesNeedGreen)).leaves greenTone pinkSquares (.start fun _ => 3) = g ∧
    (∃ luck, (enforce (.implication .squaresTake)).run greenTone (g, .start fun _ => 0) =
      .error (.unresolved "count") (g', luck)) ∧
    Leads greenTone circlesThenSquares pinkSquares g' ∧ pinkSquares.Kept g' := by
  obtain ⟨g, hg⟩ : ∃ g, (violate (.requirement .circlesNeedGreen)).leaves greenTone pinkSquares
      (.start fun _ => 3) = g := ⟨_, rfl⟩
  obtain ⟨g', luck, hrun⟩ : ∃ g' luck, (enforce (.implication .squaresTake)).run greenTone
      (g, .start fun _ => 0) = .error (.unresolved "count") (g', luck) := by
    rw [← hg]
    exact ⟨_, _, rfl⟩
  have hleads : Leads greenTone circlesThenSquares pinkSquares g' := by
    refine .call (.start fun _ => 3) (.call (.start fun _ => 0) ?_)
    rw [hg, leaves, hrun]
    exact .done g'
  exact ⟨g, g', hg, ⟨luck, hrun⟩, hleads, kept_of_leads fits_circlesThenSquares ordinary_pinkSquares hleads⟩

end Call
end ShapePuzzle
