import ShapePuzzle.Proofs.ForcingSucceeds
import ShapePuzzle.Proofs.IdleTurns

/-!
# Antecedents that are broken by force

Where no action is declared for it, an antecedent is broken by giving one property after the other a value under
which it fails, while the others keep theirs. So it is broken just where one change is enough. A pliant antecedent,
whose alternatives do not look at different properties, is broken wherever values of the domains can make it fail.
-/
namespace ShapePuzzle
variable {details : Details} {size : Int} {cell : Cell} {luck : Luck}

namespace Condition
variable {c e : Condition} {cs : List Condition} {b : Bool}

mutual

/-- The condition and all that it is made of. -/
def parts : Condition → List Condition
  | .all cs => .all cs :: partsOf cs
  | .any cs => .any cs :: partsOf cs
  | .not c => .not c :: c.parts
  | c => [c]

def partsOf : List Condition → List Condition
  | [] => []
  | c :: cs => c.parts ++ partsOf cs

end

def isLeaf : Condition → Bool
  | .all _ | .any _ | .not _ => false
  | _ => true

theorem mem_parts_self (c : Condition) : c ∈ c.parts := by
  cases c <;> simp [parts]

theorem mem_partsOf (hc : c ∈ cs) (he : e ∈ c.parts) : e ∈ partsOf cs := by
  induction cs with
  | nil => cases hc
  | cons d ds ih =>
    rw [partsOf, List.mem_append]
    rcases List.mem_cons.1 hc with rfl | hc
    · exact .inl he
    · exact .inr (ih hc)

/-- The condition has a value on every cell with values of the domains that stands there. -/
def SettlesAt (details : Details) (size : Int) (place : Position) (c : Condition) : Prop :=
  ∀ cell : Cell, cell.Ordinary → cell.position = place → ∃ b, c.evaluate (cell.context details size) = .ok b

theorem SettlesAt.set (hc : c.SettlesAt details size cell.position) (hcell : cell.Ordinary) {p : Property} {v : Value}
    (hv : v ∈ p.domain) : ∃ b, c.evaluate ((cell.set p v).context details size) = .ok b :=
  hc _ (hcell.set hv) (Cell.position_set cell p v)

theorem SettlesAt.not {place : Position} (hc : c.SettlesAt details size place) :
    (Condition.not c).SettlesAt details size place := by
  intro d hd hpos
  obtain ⟨b, hb⟩ := hc d hd hpos
  exact ⟨!b, evaluate_not_eq_ok.2 (by rw [hb, Bool.not_not])⟩

/-- So have all parts of the condition. -/
def TameAt (details : Details) (size : Int) (place : Position) (c : Condition) : Prop :=
  ∀ e ∈ c.parts, e.SettlesAt details size place

theorem TameAt.settlesAt {place : Position} (h : c.TameAt details size place) : c.SettlesAt details size place :=
  h c c.mem_parts_self

theorem TameAt.of_not {place : Position} (h : (Condition.not c).TameAt details size place) :
    c.TameAt details size place :=
  fun e he => h e (List.mem_cons_of_mem _ he)

theorem TameAt.of_mem_all {place : Position} (h : (Condition.all cs).TameAt details size place) (hc : c ∈ cs) :
    c.TameAt details size place :=
  fun e he => h e (List.mem_cons_of_mem _ (mem_partsOf hc he))

theorem TameAt.of_mem_any {place : Position} (h : (Condition.any cs).TameAt details size place) (hc : c ∈ cs) :
    c.TameAt details size place :=
  fun e he => h e (List.mem_cons_of_mem _ (mem_partsOf hc he))

mutual

/-- A tame condition is tame everywhere. -/
theorem Tame.tameAt (place : Position) : ∀ (c : Condition), c.Tame details size → c.TameAt details size place
  | .all cs, h => List.forall_mem_cons.2 ⟨fun d hd _ => Tame.settles _ h d hd, TameAll.tameAt place cs h⟩
  | .any cs, h => List.forall_mem_cons.2 ⟨fun d hd _ => Tame.settles _ h d hd, TameAll.tameAt place cs h⟩
  | .not c, h => List.forall_mem_cons.2 ⟨fun d hd _ => Tame.settles _ h d hd, Tame.tameAt place c h⟩
  | .compare _ _ _, h | .between _ _ _, h | .parity _ _, h | .prime _, h | .multipleOf _ _, h | .inRegion _ _, h =>
    List.forall_mem_singleton.2 fun d hd _ => h d hd

theorem TameAll.tameAt (place : Position) : ∀ (cs : List Condition), TameAll details size cs →
    ∀ e ∈ partsOf cs, e.SettlesAt details size place
  | [], _ => by simp [partsOf]
  | c :: cs, h => List.forall_mem_append.2 ⟨Tame.tameAt place c h.1, TameAll.tameAt place cs h.2⟩

end

/-- The condition gets the value `b` if the property gets some value of its domain. -/
def TurnsBy (details : Details) (size : Int) (p : Property) (b : Bool) (c : Condition) (cell : Cell) : Prop :=
  ∃ v ∈ p.domain, c.evaluate ((cell.set p v).context details size) = .ok b

/-- The condition gets the value `b` if some one property gets some value of its domain. -/
def TurnsTo (details : Details) (size : Int) (b : Bool) (c : Condition) (cell : Cell) : Prop :=
  ∃ p, c.TurnsBy details size p b cell

theorem turnsTo_not_iff : (Condition.not c).TurnsTo details size b cell ↔ c.TurnsTo details size (!b) cell := by
  simp only [TurnsTo, TurnsBy, evaluate_not_eq_ok]

/-- A condition that reads no property is decided by the place. -/
theorem evaluate_of_reads_none (hc : ∀ p, c.reads p = false) {d : Cell} (hpos : d.position = cell.position) :
    c.evaluate (d.context details size) = c.evaluate (cell.context details size) := by
  apply evaluate_context_congr
  exact ⟨hpos, fun p hp => absurd hp (Bool.eq_false_iff.1 (hc p))⟩

/-- Nothing that has to be changed together for the condition to get the value `b` looks at different properties:
parts that all have to turn are one condition on a single property, or only one of them looks at the cell's
properties at all. -/
inductive Pliant : Bool → Condition → Prop
  | single {b : Bool} {c : Condition} (h : ∀ p q, c.reads p = true → c.reads q = true → p = q) : Pliant b c
  | not {b : Bool} {c : Condition} (h : Pliant (!b) c) : Pliant b (.not c)
  | failAll {cs : List Condition} (h : ∀ c ∈ cs, Pliant false c) : Pliant false (.all cs)
  | holdAny {cs : List Condition} (h : ∀ c ∈ cs, Pliant true c) : Pliant true (.any cs)
  | failAny (before after : List Condition) {c : Condition} (h : Pliant false c)
    (hfixed : ∀ d ∈ before ++ after, ∀ p, d.reads p = false) : Pliant false (.any (before ++ c :: after))
  | holdAll (before after : List Condition) {c : Condition} (h : Pliant true c)
    (hfixed : ∀ d ∈ before ++ after, ∀ p, d.reads p = false) : Pliant true (.all (before ++ c :: after))

private theorem turnsTo_of_single (hsingle : ∀ p q, c.reads p = true → c.reads q = true → p = q) {d : Cell}
    (hd : d.Ordinary) (hpos : d.position = cell.position) (h : c.evaluate (d.context details size) = .ok b) :
    c.TurnsTo details size b cell := by
  obtain ⟨p, hp⟩ : ∃ p, ∀ q, c.reads q = true → q = p := by
    by_cases hreads : ∃ p, c.reads p = true
    · obtain ⟨p, hp⟩ := hreads
      exact ⟨p, fun q hq => hsingle q p hq hp⟩
    · exact ⟨.shape, fun q hq => absurd ⟨q, hq⟩ hreads⟩
  refine ⟨p, d.get p, hd p, ?_⟩
  rw [← h]
  apply evaluate_context_congr
  refine ⟨by rw [Cell.position_set, hpos], fun q hq => ?_⟩
  rw [hp q hq, Cell.get_set_self]

/-- Parts that are fixed by the place are as they were after a change on the cell. -/
private theorem evaluate_set_of_fixed {before after : List Condition} {d : Cell} {p : Property} {v : Value}
    (hfixed : ∀ e ∈ before ++ after, ∀ p, e.reads p = false) (hpos : d.position = cell.position)
    (h : ∀ e ∈ before ++ c :: after, e.evaluate (d.context details size) = .ok b)
    (hc : c.evaluate ((cell.set p v).context details size) = .ok b) :
    ∀ e ∈ before ++ c :: after, e.evaluate ((cell.set p v).context details size) = .ok b := by
  intro e he
  by_cases hother : e ∈ before ++ after
  · rw [evaluate_of_reads_none (hfixed e hother) ((Cell.position_set cell p v).trans hpos.symm)]
    exact h e he
  · obtain rfl : e = c := by
      simp only [List.mem_append, List.mem_cons] at he hother
      tauto
    exact hc

/-- Where values of the domains can give a pliant condition a value, one change can. -/
theorem Pliant.turnsTo (hc : Pliant b c) (hcell : cell.Ordinary)
    (htame : c.TameAt details size cell.position) {d : Cell} (hd : d.Ordinary) (hpos : d.position = cell.position)
    (h : c.evaluate (d.context details size) = .ok b) : c.TurnsTo details size b cell := by
  induction hc with
  | single hsingle => exact turnsTo_of_single hsingle hd hpos h
  | not _ ih => exact turnsTo_not_iff.2 (ih htame.of_not (evaluate_not_eq_ok.1 h))
  | @failAll cs _ ih =>
    obtain ⟨c, hc, hfalse⟩ := exists_of_evaluateAll h
    obtain ⟨p, v, hv, hturned⟩ := ih c hc (htame.of_mem_all hc) hfalse
    obtain ⟨b, hb⟩ := htame.settlesAt.set hcell hv
    refine ⟨p, v, hv, ?_⟩
    cases b with
    | false => exact hb
    | true =>
      rw [evaluateAll_eq_ok_true.1 hb c hc] at hturned
      cases hturned
  | @holdAny cs _ ih =>
    obtain ⟨c, hc, htrue⟩ := exists_of_evaluateAny h
    obtain ⟨p, v, hv, hturned⟩ := ih c hc (htame.of_mem_any hc) htrue
    obtain ⟨b, hb⟩ := htame.settlesAt.set hcell hv
    refine ⟨p, v, hv, ?_⟩
    cases b with
    | true => exact hb
    | false =>
      rw [evaluateAny_eq_ok_false.1 hb c hc] at hturned
      cases hturned
  | @failAny before after c _ hfixed ih =>
    have hall := evaluateAny_eq_ok_false.1 h
    have hc : c ∈ before ++ c :: after := by simp
    obtain ⟨p, v, hv, hturned⟩ := ih (htame.of_mem_any hc) (hall c hc)
    exact ⟨p, v, hv, evaluateAny_eq_ok_false.2 (evaluate_set_of_fixed hfixed hpos hall hturned)⟩
  | @holdAll before after c _ hfixed ih =>
    have hall := evaluateAll_eq_ok_true.1 h
    have hc : c ∈ before ++ c :: after := by simp
    obtain ⟨p, v, hv, hturned⟩ := ih (htame.of_mem_all hc) (hall c hc)
    exact ⟨p, v, hv, evaluateAll_eq_ok_true.2 (evaluate_set_of_fixed hfixed hpos hall hturned)⟩

section Filling
variable {p : Property} {ps : List Property}

private theorem idle_onCell (h : c.evaluate (cell.context details size) = .ok b) :
    Turn.Idle (c.onCell details size) cell b :=
  .bind_subject (.ofExcept h)

/-- A property that can make the condition hold is filled so that it does. -/
private theorem quiet_fill_of_turnsBy (hcell : cell.Ordinary) (hc : c.SettlesAt details size cell.position)
    (hfails : c.evaluate (cell.context details size) = .ok false) (h : c.TurnsBy details size p true cell) :
    Turn.Quiet (c.fill details size p) cell fun _ cell' => c.evaluate (cell'.context details size) = .ok true := by
  obtain ⟨v, hv, hholds⟩ := h
  have hquiet := quiet_fill (fun w (hw : w ∈ p.domain) => hc.set hcell hw) hcell
  refine (hquiet.and_run fun hrun _ => holds_of_fill hcell hv hholds hfails hrun).mono ?_
  exact fun _ _ hfilled => hfilled.2

/-- A property that cannot make the condition hold is left alone. -/
private theorem fill_in_vain (hcell : cell.Ordinary) (hc : c.SettlesAt details size cell.position)
    (h : ¬ c.TurnsBy details size p true cell) : Turn.Idle (c.fill details size p) cell () := by
  obtain ⟨ws, hws⟩ := exists_fitting fun v (hv : v ∈ p.domain) => hc.set hcell hv
  have hnone : ws = [] := by
    apply List.eq_nil_iff_forall_not_mem.2
    intro v hv
    exact h ⟨v, (mem_of_fitting hws v).1 hv⟩
  subst hnone
  exact .bind_subject (.bind_ofExcept hws (.pure ()))

private theorem quiet_fillEach_of_evaluate (h : c.evaluate (cell.context details size) = .ok true) :
    Turn.Quiet (c.fillEach details size ps) cell fun _ cell' => c.evaluate (cell'.context details size) = .ok true := by
  cases ps with
  | nil => exact .pure h
  | cons p ps => exact (idle_onCell h).bind_quiet (.pure h)

/-- The first property that can make the condition hold is the only one that is filled. -/
private theorem quiet_fillEach_of_turnsBy (hcell : cell.Ordinary) (hc : c.SettlesAt details size cell.position)
    (hfails : c.evaluate (cell.context details size) = .ok false) (hp : p ∈ ps)
    (h : c.TurnsBy details size p true cell) :
    Turn.Quiet (c.fillEach details size ps) cell fun _ cell' => c.evaluate (cell'.context details size) = .ok true := by
  induction ps with
  | nil => cases hp
  | cons q qs ih =>
    apply (idle_onCell hfails).bind_quiet
    by_cases hq : c.TurnsBy details size q true cell
    · exact .bind (quiet_fill_of_turnsBy hcell hc hfails hq) fun _ _ hholds => quiet_fillEach_of_evaluate hholds
    · have hrest : p ∈ qs := by
        rcases List.mem_cons.1 hp with rfl | hp
        · exact absurd h hq
        · exact hp
      exact (fill_in_vain hcell hc hq).bind_quiet (ih hrest)

private theorem fillEach_in_vain (hcell : cell.Ordinary) (hc : c.SettlesAt details size cell.position)
    (hfails : c.evaluate (cell.context details size) = .ok false) (h : ¬ c.TurnsTo details size true cell) :
    Turn.Idle (c.fillEach details size ps) cell () := by
  induction ps with
  | nil => exact .pure ()
  | cons p ps ih =>
    have hfill := fill_in_vain hcell hc fun hp => h ⟨p, hp⟩
    exact (idle_onCell hfails).bind (hfill.bind ih)

private theorem refill_in_vain (hcell : cell.Ordinary) (hc : c.SettlesAt details size cell.position)
    (hfails : c.evaluate (cell.context details size) = .ok false) (h : ¬ c.TurnsTo details size true cell) :
    Turn.Idle (c.refill details size ps) cell false := by
  induction ps with
  | nil => exact .pure false
  | cons p ps ih =>
    have hfill := fill_in_vain hcell hc fun hp => h ⟨p, hp⟩
    exact hfill.bind ((idle_onCell hfails).bind ih)

end Filling

/-- A condition that one change makes fail is forced to fail. -/
theorem quiet_forceNot_of_turnsTo (hcell : cell.Ordinary) (hc : c.SettlesAt details size cell.position)
    (hholds : c.evaluate (cell.context details size) = .ok true) (h : c.TurnsTo details size false cell) :
    Turn.Quiet ((Condition.not c).force details size) cell fun b cell' =>
      b = true ∧ c.evaluate (cell'.context details size) = .ok false := by
  have hfails : (Condition.not c).evaluate (cell.context details size) = .ok false := evaluate_not_eq_ok.2 hholds
  obtain ⟨p, v, hv, hturned⟩ := (turnsTo_not_iff (b := true)).2 h
  have hread : p ∈ (Condition.not c).properties := by
    -- a change of a property that the condition does not read would not turn it
    by_contra hunread
    rw [mem_properties] at hunread
    rw [← evaluate_context_congr (Cell.agreeOn_set hunread cell v), hfails] at hturned
    cases hturned
  have hfill := quiet_fillEach_of_turnsBy hcell hc.not hfails hread ⟨v, hv, hturned⟩
  refine (idle_onCell hfails).bind_quiet (.bind hfill fun _ cell' hforced => ?_)
  exact (idle_onCell hforced).bind_quiet (.pure ⟨rfl, evaluate_not_eq_ok.1 hforced⟩)

/-- A condition that no one change makes fail cannot be forced to, and nothing is done. -/
theorem forceNot_in_vain (hcell : cell.Ordinary) (hc : c.SettlesAt details size cell.position)
    (hholds : c.evaluate (cell.context details size) = .ok true) (h : ¬ c.TurnsTo details size false cell) :
    Turn.Idle ((Condition.not c).force details size) cell false := by
  have hvain : ¬ (Condition.not c).TurnsTo details size true cell := fun hturns => h (turnsTo_not_iff.1 hturns)
  have hfails : (Condition.not c).evaluate (cell.context details size) = .ok false := evaluate_not_eq_ok.2 hholds
  have hhere := idle_onCell hfails
  exact hhere.bind ((fillEach_in_vain hcell hc.not hfails hvain).bind
    (hhere.bind (refill_in_vain hcell hc.not hfails hvain)))

end Condition

section BreakAntecedent
variable {c : Condition}

/-- An antecedent that one change makes fail is broken. -/
theorem quiet_breakAntecedent_of_turnsTo (hcell : cell.Ordinary) (hc : c.SettlesAt details size cell.position)
    (hholds : c.evaluate (cell.context details size) = .ok true) (h : c.TurnsTo details size false cell) :
    Turn.Quiet (breakAntecedent (some c) none details size) cell fun _ cell' =>
      c.evaluate (cell'.context details size) = .ok false := by
  apply Turn.Quiet.bind_subject
  refine .bind_ofExcept hholds (.bind (Condition.quiet_forceNot_of_turnsTo hcell hc hholds h) ?_)
  rintro _ cell' ⟨rfl, hfails⟩
  exact .pure hfails

/-- An antecedent that no one change makes fail is kept, and this is all that is done about it. -/
theorem breakAntecedent_in_vain (hcell : cell.Ordinary) (hc : c.SettlesAt details size cell.position)
    (hholds : c.evaluate (cell.context details size) = .ok true) (h : ¬ c.TurnsTo details size false cell) :
    (breakAntecedent (some c) none details size) (cell, luck) =
      .ok () (cell, { luck with warnings := luck.warnings ++ [.antecedentKept cell.position] }) := by
  have hhere : Turn.Idle (Turn.ofExcept (Condition.evaluate? (cell.context details size) (some c))) cell true :=
    .ofExcept hholds
  have hforce := Condition.forceNot_in_vain hcell hc hholds h
  exact Turn.bind_eq_ok.2 ⟨cell, _, rfl, Turn.bind_eq_ok.2 ⟨true, _, hhere luck,
    Turn.bind_eq_ok.2 ⟨false, _, hforce luck, rfl⟩⟩⟩

/-- A rule that declares no action for it breaks its antecedent on a cell with values of the domains just where one
change of a property makes it fail, and else leaves the cell alone and says so. If the antecedent is pliant it is
broken wherever any values of the domains make it fail. -/
theorem breakAntecedent_by_one_change (rule : Rule) (hantecedent : rule.antecedent = some c)
    (hbreak : rule.breakAntecedent = none) (hcell : cell.Ordinary)
    (htame : c.TameAt details size cell.position)
    (hholds : c.evaluate (cell.context details size) = .ok true) (luck : Luck) :
    ∃ cell' luck', (breakAntecedent rule.antecedent rule.breakAntecedent details size) (cell, luck) =
        .ok () (cell', luck') ∧
      (c.TurnsTo details size false cell ∧
          c.evaluate (cell'.context details size) = .ok false ∧ luck'.warnings = luck.warnings ∨
        ¬ c.TurnsTo details size false cell ∧
          cell' = cell ∧ luck' = { luck with warnings := luck.warnings ++ [.antecedentKept cell.position] }) ∧
      (c.Pliant false → (∃ d : Cell, d.Ordinary ∧ d.position = cell.position ∧
          c.evaluate (d.context details size) = .ok false) →
        c.evaluate (cell'.context details size) = .ok false ∧ luck'.warnings = luck.warnings) := by
  rw [hantecedent, hbreak]
  by_cases hturns : c.TurnsTo details size false cell
  · obtain ⟨_, cell', luck', hrun, hlog, hfails⟩ := quiet_breakAntecedent_of_turnsTo hcell htame.settlesAt hholds
      hturns luck
    exact ⟨cell', luck', hrun, .inl ⟨hturns, hfails, hlog⟩, fun _ _ => ⟨hfails, hlog⟩⟩
  · refine ⟨_, _, breakAntecedent_in_vain hcell htame.settlesAt hholds hturns, .inr ⟨hturns, rfl, rfl⟩, ?_⟩
    rintro hpliant ⟨d, hd, hpos, hfails⟩
    exact absurd (hpliant.turnsTo hcell htame hd hpos hfails) hturns

/-- What meets the antecedent has to stand in the first column; how the antecedent is broken is not declared. -/
def onlyInFirstColumn (c : Condition) : Rule :=
  .implication ⟨some c, [.requireRegion (.constant (.text "left")) (.number (.int 1))], none, none⟩

def isCircle : Condition := .compare .equals (.cellProperty .shape) (.constant (.text "circle"))

def isPink : Condition := .compare .equals (.cellProperty .color) (.constant (.text "#ff82a9"))

/-- Neither another shape than a circle nor another color than pink, and in the last column unless a circle. -/
def noOtherThanPinkCircle : Condition :=
  .all [.not (.any [.not isCircle, .not isPink]),
    .any [.inRegion (.constant (.text "right")) (.number (.int 1)), isCircle]]

/-- A pink circle in the second column. -/
def strayCircle : Cell := ⟨.text "circle", .text "#ff82a9", .int 4, ⟨0, 1⟩⟩

private theorem ordinary_strayCircle : strayCircle.Ordinary := by
  intro p
  cases p <;> simp [strayCircle, Cell.get, Property.domain, shapes, colors, palette, Fields.keys, numbers]

private theorem single_compare (op : Comparison) (p : Property) (w : Value) (q q' : Property)
    (hq : (Condition.compare op (.cellProperty p) (.constant w)).reads q = true)
    (hq' : (Condition.compare op (.cellProperty p) (.constant w)).reads q' = true) : q = q' := by
  simp only [Condition.reads, Ref.reads, Bool.or_false, decide_eq_true_eq] at hq hq'
  rw [← hq, hq']

private theorem pliant_noOtherThanPinkCircle : noOtherThanPinkCircle.Pliant false := by
  have hdenied : Condition.Pliant true (.any [.not isCircle, .not isPink]) := by
    refine .holdAny (List.forall_mem_cons.2 ⟨.not ?_, List.forall_mem_singleton.2 (.not ?_)⟩)
    · exact .single (single_compare _ _ _)
    · exact .single (single_compare _ _ _)
  refine .failAll (List.forall_mem_cons.2 ⟨.not hdenied, List.forall_mem_singleton.2 ?_⟩)
  refine .failAny [.inRegion (.constant (.text "right")) (.number (.int 1))] [] (.single (single_compare _ _ _)) ?_
  exact List.forall_mem_singleton.2 fun p => by simp [Condition.reads, Ref.reads]

/-- A pink circle in the second column does not keep an antecedent that denies all else. -/
theorem breakAntecedent_by_one_change_denied : ∃ cell' luck',
    (breakAntecedent (onlyInFirstColumn noOtherThanPinkCircle).antecedent
        (onlyInFirstColumn noOtherThanPinkCircle).breakAntecedent [] 5) (strayCircle, .start fun _ => 3) =
      .ok () (cell', luck') ∧
    noOtherThanPinkCircle.evaluate (cell'.context [] 5) = .ok false ∧ luck'.warnings = [] := by
  have htame : noOtherThanPinkCircle.Tame [] 5 :=
    ⟨⟨fun _ _ => ⟨_, rfl⟩, fun _ _ => ⟨_, rfl⟩, trivial⟩, ⟨fun _ _ => ⟨_, rfl⟩, fun _ _ => ⟨_, rfl⟩, trivial⟩, trivial⟩
  obtain ⟨cell', luck', hrun, -, hbroken⟩ := breakAntecedent_by_one_change (onlyInFirstColumn noOtherThanPinkCircle)
    rfl rfl ordinary_strayCircle (htame.tameAt _ _) rfl (.start fun _ => 3)
  have hsquare : (strayCircle.set .shape (.text "square")).Ordinary :=
    ordinary_strayCircle.set (Property.mem_domain_shape.2 ⟨"square", by decide, rfl⟩)
  exact ⟨cell', luck', hrun, hbroken pliant_noOtherThanPinkCircle ⟨_, hsquare, rfl, rfl⟩⟩

/-- An antecedent that circles meet and whatever is pink is kept on a pink circle, as shape and color would have to
change together. -/
theorem antecedent_kept_circleOrPink :
    (∀ d ∈ (Condition.any [isCircle, isPink]).parts, d.isLeaf = true →
      ∀ p q, d.reads p = true → d.reads q = true → p = q) ∧
    strayCircle.Ordinary ∧ (Condition.any [isCircle, isPink]).TameAt [] 5 strayCircle.position ∧
    (Condition.any [isCircle, isPink]).evaluate (strayCircle.context [] 5) = .ok true ∧
    (∃ d : Cell, d.Ordinary ∧ d.position = strayCircle.position ∧
      (Condition.any [isCircle, isPink]).evaluate (d.context [] 5) = .ok false) ∧
    ∀ luck, (breakAntecedent (onlyInFirstColumn (.any [isCircle, isPink])).antecedent
        (onlyInFirstColumn (.any [isCircle, isPink])).breakAntecedent [] 5) (strayCircle, luck) =
      .ok () (strayCircle, { luck with warnings := luck.warnings ++ [.antecedentKept ⟨0, 1⟩] }) := by
  have htame : (Condition.any [isCircle, isPink]).TameAt [] 5 strayCircle.position :=
    Condition.Tame.tameAt _ _ ⟨fun _ _ => ⟨_, rfl⟩, fun _ _ => ⟨_, rfl⟩, trivial⟩
  have hgreen : ((strayCircle.set .shape (.text "square")).set .color (.text "#7ed957")).Ordinary :=
    (ordinary_strayCircle.set (Property.mem_domain_shape.2 ⟨"square", by decide, rfl⟩)).set
      (Property.mem_domain_color.2 ⟨"#7ed957", by decide, rfl⟩)
  refine ⟨fun d hd hleaf => ?_, ordinary_strayCircle, htame, rfl, ⟨_, hgreen, rfl, rfl⟩, fun luck => ?_⟩
  · have hmem : d ∈ [.any [isCircle, isPink], isCircle, isPink] := hd
    simp only [List.mem_cons, List.not_mem_nil, or_false] at hmem
    rcases hmem with rfl | rfl | rfl
    · cases hleaf
    · exact single_compare _ _ _
    · exact single_compare _ _ _
  · refine breakAntecedent_in_vain ordinary_strayCircle htame.settlesAt rfl ?_
    rintro ⟨p, v, -, hfails⟩
    have hboth := Condition.evaluateAny_eq_ok_false.1 hfails
    cases p with
    | shape => cases hboth isPink (by simp)
    | color => cases hboth isCircle (by simp)
    | number => cases hboth isCircle (by simp)

end BreakAntecedent
end ShapePuzzle
