import ShapePuzzle.Proofs.Draws
import ShapePuzzle.Proofs.ReferenceFaults
import ShapePuzzle.Template.Basic
import ShapePuzzle.Proofs.ViolationPhases

/-!
# Faults of rules

Rules are enforced, violated and verified by looking at references on a cell, and on a cell with its neighbor. If
none of those has a fault of a reference, neither has the rule.
-/
namespace ShapePuzzle
variable {E : Fault → Prop} {details : Details} {size : Int} {P Q : Ref → Prop}

/-- The faults of operations are allowed, and references of the two kinds have no fault that is not: those of the
first kind on a cell alone, those of the second on a cell with its neighbor. -/
structure Admits (E : Fault → Prop) (details : Details) (P Q : Ref → Prop) : Prop where
  other : ∀ e, e.OfOperation → E e
  onCell : ∀ r, P r → ∀ (cell : Cell) (size : Int), StopsWith E (r.resolve (cell.context details size))
  withNeighbor : ∀ r, Q r → ∀ (cell neighbor : Cell) (size : Int),
    StopsWith E (r.resolve (cell.contextWith neighbor details size))

namespace Condition
variable {c : Condition} (h : Admits E details P Q)
include h

theorem stopsWith_evaluate_cell (hc : c.Every P) (cell : Cell) (size : Int) :
    StopsWith E (c.evaluate (cell.context details size)) :=
  stopsWith_evaluate h.other (fun r hr => h.onCell r hr cell size) c hc

theorem stopsWith_evaluate? {c? : Option Condition} (hc : ∀ c, c? = some c → c.Every P) (cell : Cell) (size : Int) :
    StopsWith E (evaluate? (cell.context details size) c?) := by
  cases c? with
  | none => exact .ok _
  | some c => exact stopsWith_evaluate_cell h (hc c rfl) cell size

theorem stopsWith_onCell (hc : c.Every P) : Turn.StopsWith E (c.onCell details size) :=
  .bind .subject fun cell => .ofExcept (stopsWith_evaluate_cell h hc cell size)

theorem stopsWith_fitting (hc : c.Every P) (cell : Cell) (p : Property) (vs : List Value) :
    StopsWith E (c.fitting details size cell p vs) := by
  induction vs with
  | nil => exact .ok _
  | cons v vs ih =>
    exact .bind (stopsWith_evaluate_cell h hc (cell.set p v) size) fun _ _ => .bind ih fun _ _ => .pure _

theorem stopsWith_fill (hc : c.Every P) (p : Property) : Turn.StopsWith E (c.fill details size p) := by
  refine .bind .subject fun cell => .bind (.ofExcept (stopsWith_fitting h hc cell p _)) fun values => ?_
  split
  · exact .pure _
  · exact .bind (stopsWith_pick (h.other _ trivial) _) fun _ => .become _

theorem stopsWith_fillEach (hc : c.Every P) (ps : List Property) :
    Turn.StopsWith E (c.fillEach details size ps) := by
  induction ps with
  | nil => exact .pure _
  | cons p ps ih =>
    refine .bind (stopsWith_onCell h hc) fun b => ?_
    cases b with
    | true => exact .pure _
    | false => exact .bind (stopsWith_fill h hc p) fun _ => ih

theorem stopsWith_refill (hc : c.Every P) (ps : List Property) : Turn.StopsWith E (c.refill details size ps) := by
  induction ps with
  | nil => exact .pure _
  | cons p ps ih =>
    refine .bind (stopsWith_fill h hc p) fun _ => .bind (stopsWith_onCell h hc) fun b => ?_
    cases b with
    | true => exact .pure _
    | false => exact ih

theorem stopsWith_attempt (hc : c.Every P) {work : Turn Cell Unit} (hwork : Turn.StopsWith E work) :
    Turn.StopsWith E (c.attempt details size work) := by
  refine .bind (stopsWith_onCell h hc) fun b => ?_
  cases b with
  | true => exact .pure _
  | false =>
    refine .bind hwork fun _ => .bind (stopsWith_onCell h hc) fun b => ?_
    cases b with
    | true => exact .pure _
    | false => exact stopsWith_refill h hc _

omit h in
mutual

theorem stopsWith_force (h : Admits E details P Q) (size : Int) :
    ∀ (c : Condition), c.Every P → Turn.StopsWith E (c.force details size)
  | .all cs, hcs => stopsWith_attempt h hcs (stopsWith_forceAll h size cs hcs)
  | .any cs, hcs => stopsWith_attempt h hcs (stopsWith_forceAny h size cs hcs)
  | .not _, hc | .compare _ _ _, hc | .between _ _ _, hc | .parity _ _, hc | .prime _, hc | .multipleOf _ _, hc
  | .inRegion _ _, hc => stopsWith_attempt h hc (stopsWith_fillEach h hc _)

theorem stopsWith_forceAll (h : Admits E details P Q) (size : Int) :
    ∀ (cs : List Condition), EveryIn P cs → Turn.StopsWith E (forceAll details size cs)
  | [], _ => .pure _
  | c :: cs, hcs => .bind (stopsWith_force h size c hcs.1) fun _ => stopsWith_forceAll h size cs hcs.2

theorem stopsWith_forceAny (h : Admits E details P Q) (size : Int) :
    ∀ (cs : List Condition), EveryIn P cs → Turn.StopsWith E (forceAny details size cs)
  | [], _ => .pure _
  | c :: cs, hcs => .bind (stopsWith_force h size c hcs.1) fun b => by
    cases b with
    | true => exact .pure _
    | false => exact stopsWith_forceAny h size cs hcs.2

end

end Condition
namespace CellAction
variable {a : CellAction}

/-- All references in the action have a property; a name of a placeholder is a reference to it. -/
def Every (P : Ref → Prop) : CellAction → Prop
  | set _ v => P v
  | setDistinct _ k => P (.placeholder k)
  | requireRegion d s => P d ∧ P s
  | ensure c | .break c => c.Every P

/-- Looking up a placeholder is resolving a reference to it. -/
theorem stopsWith_find (h : Admits E details P Q) {k : String} (hk : P (.placeholder k)) :
    StopsWith E (details.find k) :=
  h.onCell (.placeholder k) hk default 0

variable (h : Admits E details P Q)
include h

theorem stopsWith_inRegion {d s : Ref} (hd : P d) (hs : P s) (cell : Cell) (size : Int) :
    StopsWith E (inRegion d s cell details size) :=
  .bind (h.onCell d hd cell size) fun _ _ => .bind (h.onCell s hs cell size) fun _ _ =>
    stopsWith_isInRegion h.other _ _ _ _

theorem stopsWith_apply (ha : a.Every P) (size : Int) : Turn.StopsWith E (a.apply details size) := by
  cases a with
  | set p v =>
    exact .bind .subject fun cell => .bind (.ofExcept (h.onCell v ha cell size)) fun _ =>
      .bind (.become _) fun _ => .pure _
  | setDistinct p k =>
    exact .bind (.ofExcept (stopsWith_find h ha)) fun _ => .bind (stopsWith_pickExcluding (h.other _ trivial) _ _)
      fun _ => .bind .subject fun _ => .bind (.become _) fun _ => .pure _
  | requireRegion d s =>
    exact .bind .subject fun cell => .bind (.ofExcept (stopsWith_inRegion h ha.1 ha.2 cell size)) fun _ => .pure _
  | ensure c => exact .bind (Condition.stopsWith_force h size c ha) fun _ => .pure _
  | «break» c => exact .bind (Condition.stopsWith_force h size (.not c) ha) fun _ => .pure _

theorem stopsWith_holds (ha : a.Every P) (cell : Cell) (size : Int) : StopsWith E (a.holds details size cell) := by
  cases a with
  | set p v => exact .bind (h.onCell v ha cell size) fun _ _ => .pure _
  | setDistinct p k => exact .bind (stopsWith_find h ha) fun _ _ => .pure _
  | requireRegion d s => exact stopsWith_inRegion h ha.1 ha.2 cell size
  | ensure c => exact Condition.stopsWith_evaluate_cell h ha cell size
  | «break» c => exact .bind (Condition.stopsWith_evaluate_cell h ha cell size) fun _ _ => .pure _

theorem stopsWith_refute (ha : a.Every P) (size : Int) : Turn.StopsWith E (a.refute details size) := by
  have hjudge : Turn.StopsWith E (do
      return !(← Turn.ofExcept (a.holds details size (← Turn.subject))) : Turn Cell Bool) :=
    .bind .subject fun cell => .bind (.ofExcept (stopsWith_holds h ha cell size)) fun _ => .pure _
  cases a with
  | set p v =>
    exact .bind .subject fun cell => .bind (.ofExcept (h.onCell v ha cell size)) fun _ =>
      .bind (stopsWith_pickExcluding (h.other _ trivial) _ _) fun _ => .bind .subject fun _ =>
        .bind (.become _) fun _ => hjudge
  | setDistinct p k =>
    exact .bind (.ofExcept (stopsWith_find h ha)) fun _ => .bind .subject fun _ => .bind (.become _) fun _ => hjudge
  | requireRegion d s => exact hjudge
  | ensure c => exact .bind (Condition.stopsWith_force h size (.not c) ha) fun _ => hjudge
  | «break» c => exact .bind (Condition.stopsWith_force h size c ha) fun _ => hjudge

end CellAction

section BreakAntecedent
variable {antecedent : Option Condition} {action : Option CellAction} (h : Admits E details P Q)
include h

theorem stopsWith_breakAntecedent (hc : ∀ c, antecedent = some c → c.Every P)
    (ha : ∀ a, action = some a → a.Every P) (size : Int) :
    Turn.StopsWith E (breakAntecedent antecedent action details size) := by
  have hforce : Turn.StopsWith E (breakAntecedent antecedent none details size) := by
    refine .bind .subject fun cell => .bind (.ofExcept (Condition.stopsWith_evaluate? h hc cell size)) fun b => ?_
    cases b with
    | false => exact .pure _
    | true =>
      cases antecedent with
      | none => exact .bind .subject fun _ => .warn _
      | some c =>
        refine .bind (Condition.stopsWith_force h size (.not c) (hc c rfl)) fun b => ?_
        cases b with
        | true => exact .pure _
        | false => exact .bind .subject fun _ => .warn _
  cases action with
  | none => exact hforce
  | some a => exact .bind (CellAction.stopsWith_apply h (ha a rfl) size) fun _ => hforce

theorem stopsWith_forcedAside (hc : ∀ c, antecedent = some c → c.Every P) (size : Int) (cell : Cell) :
    Turn.StopsWith E (forcedAside antecedent details size cell) := by
  have hforce : Turn.StopsWith E (Condition.force? details size antecedent) := by
    cases antecedent with
    | none => exact .pure _
    | some c => exact Condition.stopsWith_force h size c (hc c rfl)
  refine .bind (.aside hforce) fun p => ?_
  split
  · exact .pure _
  · exact .pure _

end BreakAntecedent

theorem Turn.StopsWith.atCell {α : Type} (k : Nat) {work : Turn Cell α} (h : Turn.StopsWith E work) :
    Turn.StopsWith E (Turn.atCell k work) := by
  refine .bind .subject fun g => ?_
  split
  · exact .pure _
  · exact .bind (.within h) fun _ => .pure _

theorem Turn.StopsWith.commit (k : Nat) (found : Cell) : Turn.StopsWith E (Turn.commit k found) := nofun

def ComparisonSpec.Every (P : Ref → Prop) : ComparisonSpec → Prop
  | named _ => True
  | ref r => P r

namespace NeighborAction
variable {a : NeighborAction}

/-- All references in the action have a property; a name of a placeholder is a reference to it. -/
def Every (P : Ref → Prop) : NeighborAction → Prop
  | set _ v => P v
  | setDistinct _ k => P (.placeholder k)
  | ensureNumber c k | breakNumber c k => c.Every P ∧ P (.placeholder k)

variable (h : Admits E details P Q)
include h

theorem stopsWith_numbersComparing (wanted : Bool) (op : Comparison) (threshold : Value) (ns : List Int) :
    StopsWith E (numbersComparing wanted op threshold ns) := by
  induction ns with
  | nil => exact .ok _
  | cons n ns ih => exact .bind (op.stopsWith_test h.other _ _) fun _ _ => .bind ih fun _ _ => .pure _

private theorem stopsWith_setComparing {c : ComparisonSpec} {k : String} (hc : c.Every Q) (hk : Q (.placeholder k))
    (wanted : Bool) (cell : Cell) (size : Int) :
    Turn.StopsWith E (setComparing wanted c k cell details size) := by
  have hresolve : ∀ neighbor : Cell, StopsWith E (c.resolve (cell.contextWith neighbor details size)) := by
    intro neighbor
    cases c with
    | named op => exact .ok _
    | ref r => exact .bind (h.withNeighbor r hc cell neighbor size) fun v _ => Comparison.stopsWith_ofValue h.other v
  refine .bind .subject fun neighbor => .bind (.ofExcept (hresolve neighbor)) fun op =>
    .bind (.ofExcept (h.withNeighbor (.placeholder k) hk cell neighbor size)) fun threshold => .bind ?_ fun v => ?_
  · refine .bind (.ofExcept (stopsWith_numbersComparing h wanted op threshold _)) fun values => ?_
    repeat' split
    · exact .pure _
    · exact .pure _
    · exact .bind (stopsWith_pick (h.other _ trivial) _) fun _ => .pure _
  · cases v with
    | none => exact .pure _
    | some v => exact .bind (.become _) fun _ => .pure _

theorem stopsWith_apply (ha : a.Every Q) (cell : Cell) (size : Int) :
    Turn.StopsWith E (a.apply cell details size) := by
  cases a with
  | set p v =>
    exact .bind .subject fun neighbor => .bind (.ofExcept (h.withNeighbor v ha cell neighbor size)) fun _ =>
      .bind (.become _) fun _ => .pure _
  | setDistinct p k =>
    exact .bind (.ofExcept (h.withNeighbor (.placeholder k) ha default default 0)) fun _ =>
      .bind (stopsWith_pickExcluding (h.other _ trivial) _ _) fun _ => .bind .subject fun _ =>
        .bind (.become _) fun _ => .pure _
  | ensureNumber c k => exact stopsWith_setComparing h ha.1 ha.2 true cell size
  | breakNumber c k => exact stopsWith_setComparing h ha.1 ha.2 false cell size

end NeighborAction
namespace Implication
variable {r : Implication}

/-- All references in the implication have a property. -/
structure Every (P : Ref → Prop) (r : Implication) : Prop where
  antecedent : ∀ c, r.antecedent = some c → c.Every P
  actions : ∀ a ∈ r.actions, a.Every P
  breakAntecedent : ∀ a, r.breakAntecedent = some a → a.Every P
  violation : ∀ a, r.violation = some a → a.Every P

variable (h : Admits E details P Q) (hr : r.Every P)
include h hr

theorem stopsWith_holdsOn (cell : Cell) (size : Int) : StopsWith E (r.holdsOn details size cell) := by
  refine .bind (Condition.stopsWith_evaluate? h hr.antecedent cell size) fun b _ => ?_
  cases b with
  | true => exact .allM fun a ha => CellAction.stopsWith_holds h (hr.actions a ha) cell size
  | false => exact .pure _

theorem stopsWith_runActions {actions : List CellAction} (hactions : ∀ a ∈ actions, a.Every P) (size : Int) :
    Turn.StopsWith E (r.runActions details size actions) := by
  induction actions with
  | nil => exact .pure _
  | cons a rest ih =>
    obtain ⟨ha, hrest⟩ := List.forall_mem_cons.1 hactions
    refine .bind (CellAction.stopsWith_apply h ha size) fun status => ?_
    cases status with
    | applied => exact ih hrest
    | needsBreak => exact stopsWith_breakAntecedent h hr.antecedent hr.breakAntecedent size

theorem stopsWith_enforceCell (size : Int) : Turn.StopsWith E (r.enforceCell details size) := by
  refine .bind .subject fun cell => .bind (.ofExcept (Condition.stopsWith_evaluate? h hr.antecedent cell size))
    fun b => ?_
  cases b with
  | true => exact stopsWith_runActions h hr hr.actions size
  | false => exact .pure _

private theorem stopsWith_refuteSome {actions : List CellAction} (hactions : ∀ a ∈ actions, a.Every P) (cell : Cell)
    (size : Int) : Turn.StopsWith E (r.refuteSome details size cell actions) := by
  induction actions with
  | nil => exact .pure _
  | cons a rest ih =>
    obtain ⟨ha, hrest⟩ := List.forall_mem_cons.1 hactions
    refine .bind (.aside (CellAction.stopsWith_refute h ha size)) fun p => ?_
    obtain ⟨refuted, found⟩ := p
    cases refuted with
    | false => exact ih hrest
    | true =>
      refine .bind (.ofExcept (stopsWith_holdsOn h hr found size)) fun b => ?_
      cases b with
      | true => exact ih hrest
      | false => exact .pure _

private theorem stopsWith_counterexample (cell : Cell) (size : Int) :
    Turn.StopsWith E (r.counterexample details size cell) := by
  have hrefute : Turn.StopsWith E (do r.refuteSome details size cell (← shuffle r.actions)) :=
    .bind_of_run (P := fun actions => ∀ a ∈ actions, a.Every P) (stopsWith_shuffle _)
      (fun _ _ _ hrun a ha => hr.actions a ((shuffle_spec hrun).1.mem_iff.1 ha))
      fun actions hactions => stopsWith_refuteSome h hr hactions cell size
  dsimp only [counterexample]
  cases hv : r.violation with
  | none => exact hrefute
  | some v =>
    refine .bind (.aside (CellAction.stopsWith_apply h (hr.violation v hv) size)) fun p => ?_
    refine .bind (.ofExcept (stopsWith_holdsOn h hr p.2 size)) fun b => ?_
    cases b with
    | true => exact hrefute
    | false => exact .pure _

private theorem stopsWith_violateWitness (size : Int) (cells : List (Cell × Nat)) :
    Turn.StopsWith E (r.violateWitness details size cells) := by
  induction cells with
  | nil => exact .pure _
  | cons p rest ih =>
    refine .bind (stopsWith_counterexample h hr p.1 size) fun x => ?_
    cases x with
    | none => exact ih
    | some found => exact .bind (.commit _ _) fun _ => .pure _

private theorem stopsWith_violateForced (size : Int) (cells : List (Cell × Nat)) :
    Turn.StopsWith E (r.violateForced details size cells) := by
  induction cells with
  | nil => exact .pure _
  | cons p rest ih =>
    refine .bind (stopsWith_forcedAside h hr.antecedent size p.1) fun x => ?_
    cases x with
    | none => exact ih
    | some forced =>
      have hkeep : ∀ found : Cell, Turn.StopsWith E (do Turn.commit p.2 found; return true) :=
        fun found => .bind (.commit _ _) fun _ => .pure _
      refine .bind (.ofExcept (stopsWith_holdsOn h hr forced size)) fun b => ?_
      cases b with
      | false => exact hkeep forced
      | true =>
        refine .bind (stopsWith_counterexample h hr forced size) fun x => ?_
        cases x with
        | none => exact ih
        | some found => exact hkeep found

private theorem stopsWith_witnesses (size : Int) (cells : List (Cell × Nat)) :
    StopsWith E (r.witnesses details size cells) := by
  induction cells with
  | nil => exact .ok _
  | cons c cs ih =>
    refine .bind (.bind (Condition.stopsWith_evaluate? h hr.antecedent c.1 size) fun b _ => ?_) fun _ _ =>
      .bind ih fun _ _ => .pure _
    cases b with
    | true => exact .allM fun a ha => CellAction.stopsWith_holds h (hr.actions a ha) c.1 size
    | false => exact .pure _

private theorem stopsWith_byRegion (size : Int) (cells : List (Cell × Nat)) :
    StopsWith E (r.byRegion details size cells) := by
  induction cells with
  | nil => exact .ok _
  | cons c cs ih =>
    refine .bind (.allM fun a ha => ?_) fun _ _ => .bind ih fun _ _ => .pure _
    exact CellAction.stopsWith_holds h (hr.actions a (List.mem_filter.1 ha).1) c.1 size

theorem stopsWith_violate : Turn.StopsWith E (r.violate details) := by
  refine .bind .subject fun g => .bind (.ofExcept (stopsWith_witnesses h hr g.size _)) fun found =>
    .bind (stopsWith_shuffle _) fun cells => .bind (stopsWith_violateWitness h hr g.size _) fun done => ?_
  cases done with
  | true => exact .pure _
  | false =>
    refine .bind (stopsWith_shuffle _) fun cells => .bind (.ofExcept (stopsWith_byRegion h hr g.size _)) fun split =>
      .bind (stopsWith_violateForced h hr g.size _) fun done => ?_
    cases done with
    | true => exact .pure _
    | false => exact .warn _

end Implication

namespace Requirement
variable {r : Requirement}

/-- All references in the requirement have a property: one for those that are read beside the neighbor and one for
all others. -/
structure Every (P Q : Ref → Prop) (r : Requirement) : Prop where
  antecedent : ∀ c, r.antecedent = some c → c.Every P
  direction : P r.neighbor.direction
  conditions : ∀ c ∈ r.neighbor.conditions, c.Every Q
  satisfy : ∀ a ∈ r.neighbor.satisfy, a.Every Q
  violation : ∀ a, r.neighbor.violation = some a → a.Every Q
  breakAntecedent : ∀ a, r.breakAntecedent = some a → a.Every P

variable (h : Admits E details P Q) (hr : r.Every P Q)
include h hr

private theorem stopsWith_neighborIndex? (g : Grid) (cell : Cell) :
    StopsWith E (r.neighborIndex? details g cell) :=
  .bind (h.onCell _ hr.direction cell g.size) fun v _ =>
    .bind (Direction.stopsWith_ofValue h.other v) fun _ _ => .pure _

private theorem stopsWith_neighbor? (g : Grid) (cell : Cell) : StopsWith E (r.neighbor? details g cell) := by
  refine .bind (stopsWith_neighborIndex? h hr g cell) fun x _ => ?_
  cases x with
  | none => exact .pure _
  | some j => exact .pure _

private theorem stopsWith_conditionsHold (size : Int) (cell neighbor : Cell) :
    StopsWith E (r.conditionsHold details size cell neighbor) :=
  .allM fun c hc => Condition.stopsWith_evaluate h.other (fun q hq => h.withNeighbor q hq cell neighbor size) c
    (hr.conditions c hc)

theorem stopsWith_holdsOn (g : Grid) (cell : Cell) : StopsWith E (r.holdsOn details g cell) := by
  refine .bind (Condition.stopsWith_evaluate? h hr.antecedent cell g.size) fun b _ => ?_
  cases b with
  | false => exact .pure _
  | true =>
    refine .bind (stopsWith_neighbor? h hr g cell) fun x _ => ?_
    cases x with
    | none => exact .pure _
    | some p => exact stopsWith_conditionsHold h hr g.size cell p.1

omit hr in
private theorem stopsWith_satisfyNeighbor {actions : List NeighborAction} (hactions : ∀ a ∈ actions, a.Every Q)
    (cell : Cell) (size : Int) : Turn.StopsWith E (satisfyNeighbor cell details size actions) := by
  induction actions with
  | nil => exact .pure _
  | cons a rest ih =>
    obtain ⟨ha, hrest⟩ := List.forall_mem_cons.1 hactions
    exact .bind (NeighborAction.stopsWith_apply h ha cell size) fun _ => .bind (ih hrest) fun _ => .pure _

private theorem stopsWith_satisfy (cell : Cell) : Turn.StopsWith E (r.satisfy details cell) := by
  refine .bind .subject fun g => .bind (.ofExcept (stopsWith_neighbor? h hr g cell)) fun x => ?_
  cases x with
  | none => exact .pure _
  | some p =>
    refine .bind (.atCell p.2 (stopsWith_satisfyNeighbor h hr.satisfy cell g.size)) fun y => ?_
    split
    · refine .bind .subject fun g' => ?_
      split
      · exact .ofExcept (stopsWith_conditionsHold h hr g.size cell _)
      · exact .pure _
    · exact .pure _

theorem stopsWith_enforceCell (k : Nat) (cell : Cell) : Turn.StopsWith E (r.enforceCell details k cell) := by
  refine .bind .subject fun g => .bind (.ofExcept (Condition.stopsWith_evaluate? h hr.antecedent cell g.size))
    fun b => ?_
  cases b with
  | false => exact .pure _
  | true =>
    refine .bind (stopsWith_satisfy h hr cell) fun done => ?_
    cases done with
    | true => exact .pure _
    | false =>
      exact .bind (.atCell k (stopsWith_breakAntecedent h hr.antecedent hr.breakAntecedent g.size)) fun _ => .pure _

private theorem stopsWith_witnesses (g : Grid) (cells : List (Cell × Nat)) :
    StopsWith E (r.witnesses details g cells) := by
  induction cells with
  | nil => exact .ok _
  | cons p rest ih =>
    refine .bind (Condition.stopsWith_evaluate? h hr.antecedent p.1 g.size) fun b _ => ?_
    cases b with
    | false => exact .bind (.pure _) fun _ _ => .bind ih fun _ _ => .pure _
    | true =>
      refine .bind (stopsWith_neighbor? h hr g p.1) fun x _ => ?_
      cases x with
      | none => exact .bind (.pure _) fun _ _ => .bind ih fun _ _ => .pure _
      | some q =>
        refine .bind (stopsWith_conditionsHold h hr g.size p.1 q.1) fun b _ => ?_
        cases b with
        | false => exact .bind (.pure _) fun _ _ => .bind ih fun _ _ => .pure _
        | true => exact .bind (.pure _) fun _ _ => .bind ih fun _ _ => .pure _

private theorem stopsWith_spoilWitness {spoil : NeighborAction} (hspoil : spoil.Every Q) (size : Int)
    (found : List ((Cell × Nat) × Nat)) : Turn.StopsWith E (r.spoilWitness details size spoil found) :=
  .bind (stopsWith_pick (h.other _ trivial) _) fun w =>
    .bind (.atCell w.2 (NeighborAction.stopsWith_apply h hspoil w.1.1 size)) fun _ =>
      .bind .subject fun g => .bind (.ofExcept (stopsWith_holdsOn h hr g w.1.1)) fun _ => .pure _

private theorem stopsWith_alone (g : Grid) (cells : List (Cell × Nat)) : StopsWith E (r.alone details g cells) := by
  induction cells with
  | nil => exact .ok _
  | cons c cs ih => exact .bind (stopsWith_neighborIndex? h hr g c.1) fun _ _ => .bind ih fun _ _ => .pure _

private theorem stopsWith_spoilNeighbor (size : Int) (cell : Cell) :
    Turn.StopsWith E (r.spoilNeighbor details size cell) := by
  refine .bind (stopsWith_satisfyNeighbor h hr.satisfy cell size) fun _ => ?_
  cases hv : r.neighbor.violation with
  | none => exact .throw (h.other _ trivial)
  | some spoil => exact .bind (NeighborAction.stopsWith_apply h (hr.violation spoil hv) cell size) fun _ => .pure _

private theorem stopsWith_violateForced (cells : List (Cell × Nat)) :
    Turn.StopsWith E (r.violateForced details cells) := by
  induction cells with
  | nil => exact .pure _
  | cons p rest ih =>
    refine .bind .subject fun g => .bind (stopsWith_forcedAside h hr.antecedent g.size p.1) fun x => ?_
    cases x with
    | none => exact ih
    | some forced =>
      refine .bind (.ofExcept (stopsWith_neighbor? h hr g forced)) fun x => ?_
      cases x with
      | none => exact .bind (.commit _ _) fun _ => .pure _
      | some q =>
        refine .bind (.aside (stopsWith_spoilNeighbor h hr g.size forced)) fun s => ?_
        refine .bind (.ofExcept (stopsWith_conditionsHold h hr g.size forced s.2)) fun b => ?_
        cases b with
        | true => exact ih
        | false => exact .bind (.commit _ _) fun _ => .bind (.commit _ _) fun _ => .pure _

private theorem stopsWith_violateWitness : Turn.StopsWith E (r.violateWitness details) := by
  refine .bind .subject fun g => .bind (.ofExcept (stopsWith_witnesses h hr g _)) fun found => ?_
  cases hv : r.neighbor.violation with
  | none => exact .pure _
  | some spoil =>
    dsimp only
    split
    · exact .pure _
    · exact stopsWith_spoilWitness h hr (hr.violation spoil hv) g.size found

private theorem stopsWith_violateElsewhere : Turn.StopsWith E (r.violateElsewhere details) := by
  refine .bind .subject fun g => .bind (stopsWith_shuffle _) fun cells => ?_
  have hcandidates : StopsWith E (r.candidates details g cells) := by
    unfold candidates
    split
    · exact .ok _
    · exact stopsWith_alone h hr g cells
  refine .bind (.ofExcept hcandidates) fun chosen => .bind (stopsWith_violateForced h hr chosen) fun done => ?_
  cases done with
  | true => exact .pure _
  | false => exact .warn _

theorem stopsWith_violate : Turn.StopsWith E (r.violate details) := by
  rw [violate_eq]
  refine .bind (stopsWith_violateWitness h hr) fun done => ?_
  cases done with
  | true => exact .pure _
  | false => exact stopsWith_violateElsewhere h hr

end Requirement
namespace Rule
variable {rule : Rule}

/-- All references in the rule have a property: one for those that are read beside a neighbor and one for all
others. -/
def Every (P Q : Ref → Prop) : Rule → Prop
  | implication r => r.Every P
  | requirement r => r.Every P Q

variable (h : Admits E details P Q)
include h

theorem stopsWith_verify (hr : rule.Every P Q) (g : Grid) : StopsWith E (rule.verify details g) := by
  cases rule with
  | implication r => exact .allM fun c _ => Implication.stopsWith_holdsOn h hr c g.size
  | requirement r => exact .allM fun c _ => Requirement.stopsWith_holdsOn h hr g c

theorem stopsWith_enforce (hr : rule.Every P Q) : Turn.StopsWith E (rule.enforce details) := by
  have hat : ∀ k, Turn.StopsWith E (rule.enforceAt details k) := by
    refine fun k => .bind .subject fun g => ?_
    cases rule with
    | implication r => exact .bind (.atCell k (Implication.stopsWith_enforceCell h hr g.size)) fun _ => .pure _
    | requirement r =>
      cases hcell : g.cells[k]? with
      | none => exact .pure _
      | some cell => exact Requirement.stopsWith_enforceCell h hr k cell
  refine .bind .subject fun g => ?_
  generalize List.range g.cells.length = ks
  induction ks with
  | nil => exact .pure _
  | cons k ks ih => exact .bind (hat k) fun _ => ih

theorem stopsWith_violate (hr : rule.Every P Q) : Turn.StopsWith E (rule.violate details) := by
  cases rule with
  | implication r => exact Implication.stopsWith_violate h hr
  | requirement r => exact Requirement.stopsWith_violate h hr

theorem stopsWith_enforceAll {rules : List Rule} (hrules : ∀ rule ∈ rules, rule.Every P Q) :
    Turn.StopsWith E (enforceAll details rules) := by
  induction rules with
  | nil => exact .pure _
  | cons rule rest ih =>
    obtain ⟨hrule, hrest⟩ := List.forall_mem_cons.1 hrules
    exact .bind (stopsWith_enforce h hrule) fun _ => ih hrest

end Rule

variable {σ : Type}

namespace Grid
variable (hE : ∀ e, e.OfOperation → E e)
include hE

theorem stopsWith_randomCell (position : Position) : Turn.StopsWith E (randomCell position : Turn σ Cell) := by
  have hpick : ∀ p : Property, Turn.StopsWith E (pick p.domain : Turn σ Value) :=
    fun p => stopsWith_pick (hE _ trivial) _
  exact .bind (hpick _) fun _ => .bind (hpick _) fun _ => .bind (hpick _) fun _ => .pure _

theorem stopsWith_randomCells (size : Int) (ks : List Nat) :
    Turn.StopsWith E (randomCells size ks : Turn σ (List Cell)) := by
  induction ks with
  | nil => exact .pure _
  | cons k ks ih => exact .bind (stopsWith_randomCell hE _) fun _ => .bind ih fun _ => .pure _

theorem stopsWith_random (size : Int) : Turn.StopsWith E (random size : Turn σ Grid) := by
  refine .bind (stopsWith_randomCells hE _ _) fun cells => .ofExcept ?_
  unfold ofCells
  split
  · exact .ok _
  · exact .error (wrongCount_mem hE _ _)

end Grid

namespace Template
variable {t : Template} (h : Admits E details P Q) (ht : ∀ rule ∈ t.rules, rule.Every P Q)
include h ht

theorem stopsWith_buildGrid (size : Int) (satisfies : Bool) :
    Turn.StopsWith E (t.buildGrid size satisfies details : Turn σ Grid) := by
  have hshape : Turn.StopsWith E (t.shapeGrid satisfies details) := by
    refine .bind (Rule.stopsWith_enforceAll h ht) fun _ => ?_
    cases satisfies with
    | true => exact .pure _
    | false =>
      exact .bind_of_run (P := fun rule => rule ∈ t.rules) (stopsWith_pick (h.other _ trivial) _)
        (fun _ _ _ hpick => (pick_spec hpick).1) fun rule hrule => Rule.stopsWith_violate h (ht rule hrule)
  exact .bind (Grid.stopsWith_random h.other size) fun _ => .bind (.aside hshape) fun _ => .pure _

theorem stopsWith_verify (g : Grid) : StopsWith E (t.verify g details) :=
  .allM fun rule hrule => Rule.stopsWith_verify h (ht rule hrule) g

end Template
end ShapePuzzle
