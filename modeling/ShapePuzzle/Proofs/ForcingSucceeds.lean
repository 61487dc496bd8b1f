import ShapePuzzle.Proofs.QuietTurns

/-!
# When forcing a condition succeeds

On cells with values of the domains a condition whose leaves have a value there can be forced without a fault.
It comes to hold if it reads one property and some value of its domain meets it, and if it asks for several
such conditions of different properties at once.
-/
namespace ShapePuzzle

theorem Cell.Ordinary.set {c : Cell} (hc : c.Ordinary) {p : Property} {v : Value} (hv : v ∈ p.domain) :
    (c.set p v).Ordinary :=
  (Cell.refilled_set (P := fun _ => True) trivial hv c).ordinary hc

namespace Condition
variable {details : Details} {size : Int} {c : Condition} {cs : List Condition} {cell : Cell}

/-- The condition has a value on every cell with values of the domains. -/
def Settles (details : Details) (size : Int) (c : Condition) : Prop :=
  ∀ cell : Cell, cell.Ordinary → ∃ b, c.evaluate (cell.context details size) = .ok b

mutual

/-- So have all its parts. -/
def Tame (details : Details) (size : Int) : Condition → Prop
  | .all cs | .any cs => TameAll details size cs
  | .not c => c.Tame details size
  | c => c.Settles details size

def TameAll (details : Details) (size : Int) : List Condition → Prop
  | [] => True
  | c :: cs => c.Tame details size ∧ TameAll details size cs

end

theorem evaluateAll_eq_ok_true {ctx : Context} :
    evaluateAll ctx cs = .ok true ↔ ∀ c ∈ cs, c.evaluate ctx = .ok true := by
  induction cs with
  | nil => simp [evaluateAll]
  | cons c cs ih =>
    simp only [evaluateAll, except_bind_eq_ok, List.forall_mem_cons, ← ih]
    constructor
    · rintro ⟨b, hb, h⟩
      cases b with
      | true => exact ⟨hb, h⟩
      | false => cases h
    · rintro ⟨hb, h⟩
      exact ⟨true, hb, h⟩

theorem evaluateAny_eq_ok_false {ctx : Context} :
    evaluateAny ctx cs = .ok false ↔ ∀ c ∈ cs, c.evaluate ctx = .ok false := by
  induction cs with
  | nil => simp [evaluateAny]
  | cons c cs ih =>
    simp only [evaluateAny, except_bind_eq_ok, List.forall_mem_cons, ← ih]
    constructor
    · rintro ⟨b, hb, h⟩
      cases b with
      | true => cases h
      | false => exact ⟨hb, h⟩
    · rintro ⟨hb, h⟩
      exact ⟨false, hb, h⟩

theorem exists_of_evaluateAll {ctx : Context} (h : evaluateAll ctx cs = .ok false) :
    ∃ c ∈ cs, c.evaluate ctx = .ok false := by
  induction cs with
  | nil => cases h
  | cons c cs ih =>
    obtain ⟨b, hb, h⟩ := except_bind_eq_ok.1 h
    cases b with
    | false => exact ⟨c, List.mem_cons_self, hb⟩
    | true =>
      obtain ⟨d, hd, hfalse⟩ := ih h
      exact ⟨d, List.mem_cons_of_mem c hd, hfalse⟩

theorem exists_of_evaluateAny {ctx : Context} (h : evaluateAny ctx cs = .ok true) :
    ∃ c ∈ cs, c.evaluate ctx = .ok true := by
  induction cs with
  | nil => cases h
  | cons c cs ih =>
    obtain ⟨b, hb, h⟩ := except_bind_eq_ok.1 h
    cases b with
    | true => exact ⟨c, List.mem_cons_self, hb⟩
    | false =>
      obtain ⟨d, hd, htrue⟩ := ih h
      exact ⟨d, List.mem_cons_of_mem c hd, htrue⟩

mutual

theorem Tame.settles : ∀ (c : Condition), c.Tame details size → c.Settles details size
  | .all cs, h => fun cell hcell => TameAll.settles_all cs h cell hcell
  | .any cs, h => fun cell hcell => TameAll.settles_any cs h cell hcell
  | .not c, h => fun cell hcell => by
    obtain ⟨b, hb⟩ := Tame.settles c h cell hcell
    exact ⟨!b, by simp only [evaluate, hb]; rfl⟩
  | .compare _ _ _, h | .between _ _ _, h | .parity _ _, h | .prime _, h | .multipleOf _ _, h
  | .inRegion _ _, h => h

theorem TameAll.settles_all : ∀ (cs : List Condition), TameAll details size cs →
    ∀ cell : Cell, cell.Ordinary → ∃ b, evaluateAll (cell.context details size) cs = .ok b
  | [], _, _, _ => ⟨true, rfl⟩
  | c :: cs, h, cell, hcell => by
    obtain ⟨b, hb⟩ := Tame.settles c h.1 cell hcell
    obtain ⟨b', hb'⟩ := TameAll.settles_all cs h.2 cell hcell
    cases b with
    | true => exact ⟨b', by simp only [evaluateAll, hb]; exact hb'⟩
    | false => exact ⟨false, by simp only [evaluateAll, hb]; rfl⟩

theorem TameAll.settles_any : ∀ (cs : List Condition), TameAll details size cs →
    ∀ cell : Cell, cell.Ordinary → ∃ b, evaluateAny (cell.context details size) cs = .ok b
  | [], _, _, _ => ⟨false, rfl⟩
  | c :: cs, h, cell, hcell => by
    obtain ⟨b, hb⟩ := Tame.settles c h.1 cell hcell
    obtain ⟨b', hb'⟩ := TameAll.settles_any cs h.2 cell hcell
    cases b with
    | true => exact ⟨true, by simp only [evaluateAny, hb]; rfl⟩
    | false => exact ⟨b', by simp only [evaluateAny, hb]; exact hb'⟩

end

theorem exists_fitting {p : Property} {vs : List Value}
    (hvs : ∀ v ∈ vs, ∃ b, c.evaluate ((cell.set p v).context details size) = .ok b) :
    ∃ ws, c.fitting details size cell p vs = .ok ws := by
  induction vs with
  | nil => exact ⟨[], rfl⟩
  | cons v vs ih =>
    obtain ⟨b, hb⟩ := hvs v List.mem_cons_self
    obtain ⟨ws, hws⟩ := ih fun w hw => hvs w (List.mem_cons_of_mem v hw)
    refine ⟨if b then v :: ws else ws, ?_⟩
    simp only [fitting, hb, hws]
    rfl

private theorem quiet_onCell (hc : c.Settles details size) (hcell : cell.Ordinary) :
    Turn.Quiet (c.onCell details size) cell fun _ cell' => cell' = cell := by
  obtain ⟨b, hb⟩ := hc cell hcell
  exact .bind_subject (.ofExcept hb rfl)

theorem quiet_fill {p : Property}
    (hvalue : ∀ v ∈ p.domain, ∃ b, c.evaluate ((cell.set p v).context details size) = .ok b) (hcell : cell.Ordinary) :
    Turn.Quiet (c.fill details size p) cell fun _ cell' => cell'.Ordinary := by
  obtain ⟨ws, hws⟩ := exists_fitting hvalue
  refine .bind_subject (.bind_ofExcept hws ?_)
  split
  · exact .pure hcell
  · rename_i hcond
    simp only [Bool.or_eq_true, List.isEmpty_iff, not_or] at hcond
    refine .bind (Q := fun v cell' => v ∈ ws ∧ cell' = cell) (quiet_pick hcond.1 fun v hv => ⟨hv, rfl⟩) ?_
    rintro v cell' ⟨hv, rfl⟩
    exact .become (hcell.set ((mem_of_fitting hws v).1 hv).1)

private theorem quiet_fillEach (hc : c.Settles details size) (hcell : cell.Ordinary) (ps : List Property) :
    Turn.Quiet (c.fillEach details size ps) cell fun _ cell' => cell'.Ordinary := by
  induction ps generalizing cell with
  | nil => exact .pure hcell
  | cons p ps ih =>
    refine .bind (quiet_onCell hc hcell) ?_
    rintro b cell' rfl
    cases b with
    | true => exact .pure hcell
    | false => exact .bind (quiet_fill (fun _ hv => hc _ (hcell.set hv)) hcell) fun _ _ hcell' => ih hcell'

private theorem quiet_refill (hc : c.Settles details size) (hcell : cell.Ordinary) (ps : List Property) :
    Turn.Quiet (c.refill details size ps) cell fun _ cell' => cell'.Ordinary := by
  induction ps generalizing cell with
  | nil => exact .pure hcell
  | cons p ps ih =>
    refine .bind (quiet_fill (fun _ hv => hc _ (hcell.set hv)) hcell) fun _ cell₁ hcell₁ =>
      .bind (quiet_onCell hc hcell₁) ?_
    rintro b cell' rfl
    cases b with
    | true => exact .pure hcell₁
    | false => exact ih hcell₁

private theorem quiet_attempt (hc : c.Settles details size) (hcell : cell.Ordinary) {work : Turn Cell Unit}
    (hwork : Turn.Quiet work cell fun _ cell' => cell'.Ordinary) :
    Turn.Quiet (c.attempt details size work) cell fun _ cell' => cell'.Ordinary := by
  refine .bind (quiet_onCell hc hcell) ?_
  rintro b cell' rfl
  cases b with
  | true => exact .pure hcell
  | false =>
    refine .bind hwork fun _ cell₁ hcell₁ => .bind (quiet_onCell hc hcell₁) ?_
    rintro b cell' rfl
    cases b with
    | true => exact .pure hcell₁
    | false => exact quiet_refill hc hcell₁ _

mutual

private theorem quiet_force_ordinary : ∀ (c : Condition), c.Tame details size → ∀ {cell : Cell}, cell.Ordinary →
    Turn.Quiet (c.force details size) cell fun _ cell' => cell'.Ordinary
  | .all cs, h, _, hcell => quiet_attempt (Tame.settles _ h) hcell (quiet_forceAll cs h hcell)
  | .any cs, h, _, hcell => quiet_attempt (Tame.settles _ h) hcell (quiet_forceAny cs h hcell)
  | .not _, h, _, hcell | .compare _ _ _, h, _, hcell | .between _ _ _, h, _, hcell | .parity _ _, h, _, hcell
  | .prime _, h, _, hcell | .multipleOf _ _, h, _, hcell | .inRegion _ _, h, _, hcell =>
    quiet_attempt (Tame.settles _ h) hcell (quiet_fillEach (Tame.settles _ h) hcell _)

private theorem quiet_forceAll : ∀ (cs : List Condition), TameAll details size cs → ∀ {cell : Cell}, cell.Ordinary →
    Turn.Quiet (forceAll details size cs) cell fun _ cell' => cell'.Ordinary
  | [], _, _, hcell => .pure hcell
  | c :: cs, h, _, hcell => .bind (quiet_force_ordinary c h.1 hcell) fun _ _ hcell' => quiet_forceAll cs h.2 hcell'

private theorem quiet_forceAny : ∀ (cs : List Condition), TameAll details size cs → ∀ {cell : Cell}, cell.Ordinary →
    Turn.Quiet (forceAny details size cs) cell fun _ cell' => cell'.Ordinary
  | [], _, _, hcell => .pure hcell
  | c :: cs, h, _, hcell => .bind (quiet_force_ordinary c h.1 hcell) fun b _ hcell' => by
    cases b with
    | true => exact .pure hcell'
    | false => exact quiet_forceAny cs h.2 hcell'

end

/-- Forcing on the cell always says that the condition came to hold. -/
def Takes (details : Details) (size : Int) (c : Condition) (cell : Cell) : Prop :=
  ∀ {luck luck' : Luck} {b : Bool} {cell' : Cell}, (c.force details size) (cell, luck) = .ok b (cell', luck') → b = true

theorem quiet_force (hc : c.Tame details size) (hcell : cell.Ordinary) :
    Turn.Quiet (c.force details size) cell fun b cell' => cell'.Ordinary ∧
      c.evaluate (cell'.context details size) = .ok b ∧ cell.Refilled (c.reads ·) cell' ∧
      (c.Takes details size cell → b = true) := by
  refine ((quiet_force_ordinary c hc hcell).and_run (P := fun b cell' =>
    c.evaluate (cell'.context details size) = .ok b ∧ cell.Refilled (c.reads ·) cell' ∧
      (c.Takes details size cell → b = true)) fun hrun _ => ?_)
  exact ⟨(force_spec c hrun).1, (force_spec c hrun).2, fun htakes => htakes hrun⟩

/-- Nothing has to be done where the condition holds. -/
theorem takes_of_evaluate (h : c.evaluate (cell.context details size) = .ok true) : c.Takes details size cell := by
  intro luck luck' b cell' hrun
  rw [force_of_evaluate h] at hrun
  cases hrun
  rfl

private theorem properties_of_single {p : Property} (hreads : ∀ q, c.reads q = true → q = p) (hp : c.reads p = true) :
    c.properties = [p] := by
  have hread : ∀ q, c.reads q = decide (q = p) := by
    intro q
    by_cases hq : q = p
    · simp [hq, hp]
    · rw [decide_eq_false hq, Bool.eq_false_iff]
      exact fun h => hq (hreads q h)
  unfold properties
  simp only [funext hread]
  cases p <;> decide

/-- A condition that fails now and holds after a property is given another value reads that property. -/
private theorem reads_of_single {p : Property} {v : Value} (hreads : ∀ q, c.reads q = true → q = p)
    (hfails : c.evaluate (cell.context details size) = .ok false)
    (hholds : c.evaluate ((cell.set p v).context details size) = .ok true) : c.reads p = true := by
  by_contra hno
  have hsame : (cell.set p v).AgreeOn (c.reads ·) cell := by
    refine ⟨by simp, fun q hq => ?_⟩
    rw [hreads q hq] at hq
    exact absurd hq hno
  rw [evaluate_context_congr hsame, hfails] at hholds
  cases hholds

/-- Filling a property that some value of its domain sets right makes the condition hold. -/
theorem holds_of_fill {p : Property} {v : Value} {luck luck' : Luck} {cell' : Cell} {u : Unit}
    (hcell : cell.Ordinary) (hv : v ∈ p.domain)
    (hholds : c.evaluate ((cell.set p v).context details size) = .ok true)
    (hfails : c.evaluate (cell.context details size) = .ok false)
    (h : (c.fill details size p) (cell, luck) = .ok u (cell', luck')) :
    c.evaluate (cell'.context details size) = .ok true := by
  obtain ⟨values, hvalues, ⟨-, hnil | hin⟩ | ⟨w, hw, hset⟩⟩ := fill_spec h
  · have hmem := (mem_of_fitting hvalues v).2 ⟨hv, hholds⟩
    rw [hnil] at hmem
    cases hmem
  · -- the value that the cell has would be fitting, but the condition fails with it
    have hdomain : ∀ w ∈ values, w ∈ p.domain := fun w hw => ((mem_of_fitting hvalues w).1 hw).1
    have hmem := (Property.isIn_iff_of_mem_domain (hcell p) hdomain).1 hin
    have htrue := ((mem_of_fitting hvalues _).1 hmem).2
    rw [Cell.set_get_self, hfails] at htrue
    cases htrue
  · have hcell' : cell' = cell.set p w := hset
    rw [hcell']
    exact ((mem_of_fitting hvalues w).1 hw).2

/-- A condition on one property comes to hold if some value of its domain meets it. -/
theorem takes_of_single {p : Property} (hreads : ∀ q, c.reads q = true → q = p) (hcell : cell.Ordinary) {v : Value}
    (hv : v ∈ p.domain) (hholds : c.evaluate ((cell.set p v).context details size) = .ok true) :
    c.Takes details size cell := by
  intro luck luck' b cell' h
  obtain ⟨work, heq, hwork⟩ := force_eq_attempt details size c
  rw [heq] at h
  rcases attempt_cases h with rfl | ⟨he₁, u, ⟨cell₂, luck₂⟩, hrun, he₂, h⟩
  · rfl
  have hrefilled := hwork hrun
  have hagree : (cell.set p v).AgreeOn (c.reads ·) (cell₂.set p v) := by
    refine ⟨by simpa using hrefilled.position.symm, fun q hq => ?_⟩
    rw [hreads q hq, Cell.get_set_self, Cell.get_set_self]
  have hholds₂ := hholds
  rw [evaluate_context_congr hagree] at hholds₂
  -- the work did not help, so the one property is filled
  rw [properties_of_single hreads (reads_of_single hreads he₁ hholds)] at h
  obtain ⟨_, ⟨cell₃, luck₃⟩, hfill, h⟩ := Turn.bind_eq_ok.1 h
  obtain ⟨b₃, _, h₃, h⟩ := Turn.bind_eq_ok.1 h
  obtain ⟨he₃, rfl⟩ := onCell_eq_ok.1 h₃
  rw [holds_of_fill (hrefilled.ordinary hcell) hv hholds₂ he₂ hfill] at he₃
  cases he₃
  exact (Turn.pure_eq_ok.1 h).1.symm

private theorem forceAll_holds {luck luck' : Luck} {cell' : Cell} {u : Unit}
    (hcs : ∀ c ∈ cs, ∀ d : Cell, d.Ordinary → d.position = cell.position → c.Takes details size d)
    (hdisjoint : cs.Pairwise fun a b => ∀ p, b.reads p = true → a.reads p = false) (hcell : cell.Ordinary)
    (h : (forceAll details size cs) (cell, luck) = .ok u (cell', luck')) :
    ∀ c ∈ cs, c.evaluate (cell'.context details size) = .ok true := by
  induction cs generalizing cell luck with
  | nil => simp
  | cons c cs ih =>
    obtain ⟨b, ⟨cell₁, luck₁⟩, hfirst, hrest⟩ := Turn.bind_eq_ok.1 h
    obtain ⟨hfree, hdisjoint⟩ := List.pairwise_cons.1 hdisjoint
    obtain ⟨he, hrefilled⟩ := force_spec c hfirst
    have htrue := hcs c List.mem_cons_self cell hcell rfl hfirst
    subst htrue
    refine List.forall_mem_cons.2 ⟨?_, ih (fun d hd e he hpos => ?_) hdisjoint (hrefilled.ordinary hcell) hrest⟩
    · have hagree : cell₁.AgreeOn (c.reads ·) cell' := by
        refine (forceAll_refilled cs hrest).agreeOn fun p hp hread => ?_
        obtain ⟨d, hd, hdp⟩ := someReads_iff.1 hread
        rw [hfree d hd p hdp] at hp
        cases hp
      rw [← evaluate_context_congr hagree]
      exact he
    · exact hcs d (List.mem_cons_of_mem c hd) e he (hpos.trans hrefilled.position)

/-- Conditions on different properties that each come to hold come to hold together. -/
theorem takes_all (hcs : ∀ c ∈ cs, ∀ d : Cell, d.Ordinary → d.position = cell.position → c.Takes details size d)
    (hdisjoint : cs.Pairwise fun a b => ∀ p, b.reads p = true → a.reads p = false) (hcell : cell.Ordinary) :
    (Condition.all cs).Takes details size cell := by
  intro luck luck' b cell' h
  have hattempt : ((Condition.all cs).attempt details size (forceAll details size cs)) (cell, luck) =
      .ok b (cell', luck') := h
  rcases attempt_cases hattempt with rfl | ⟨-, u, ⟨cell₂, luck₂⟩, hrun, hfails, -⟩
  · rfl
  · rw [evaluate, evaluateAll_eq_ok_true.2 (forceAll_holds hcs hdisjoint hcell hrun)] at hfails
    cases hfails

private theorem forceAny_holds {luck luck' : Luck} {cell' : Cell} {u : Unit}
    (hcs : ∃ c ∈ cs, ∀ d : Cell, d.Ordinary → d.position = cell.position → c.Takes details size d)
    (hcell : cell.Ordinary) (h : (forceAny details size cs) (cell, luck) = .ok u (cell', luck')) :
    ∃ c ∈ cs, c.evaluate (cell'.context details size) = .ok true := by
  induction cs generalizing cell luck with
  | nil =>
    obtain ⟨c, hc, -⟩ := hcs
    cases hc
  | cons c cs ih =>
    obtain ⟨b, ⟨cell₁, luck₁⟩, hfirst, hrest⟩ := Turn.bind_eq_ok.1 h
    obtain ⟨he, hrefilled⟩ := force_spec c hfirst
    cases b with
    | true =>
      obtain ⟨-, ⟨⟩⟩ := Turn.pure_eq_ok.1 hrest
      exact ⟨c, List.mem_cons_self, he⟩
    | false =>
      -- what was drawn for a condition in vain stays, but the cell is still one of domain values
      obtain ⟨d, hd, htakes⟩ := hcs
      have hmem : d ∈ cs := by
        rcases List.mem_cons.1 hd with rfl | hd
        · cases htakes cell hcell rfl hfirst
        · exact hd
      obtain ⟨e, he, htrue⟩ := ih ⟨d, hmem, fun e he hpos => htakes e he (hpos.trans hrefilled.position)⟩
        (hrefilled.ordinary hcell) hrest
      exact ⟨e, List.mem_cons_of_mem c he, htrue⟩

/-- One condition that comes to hold is enough, whatever was tried before it. -/
theorem takes_any (hcs : ∃ c ∈ cs, ∀ d : Cell, d.Ordinary → d.position = cell.position → c.Takes details size d)
    (hcell : cell.Ordinary) : (Condition.any cs).Takes details size cell := by
  intro luck luck' b cell' h
  have hattempt : ((Condition.any cs).attempt details size (forceAny details size cs)) (cell, luck) =
      .ok b (cell', luck') := h
  rcases attempt_cases hattempt with rfl | ⟨-, u, ⟨cell₂, luck₂⟩, hrun, hfails, -⟩
  · rfl
  · obtain ⟨c, hc, htrue⟩ := forceAny_holds hcs hcell hrun
    rw [evaluate, evaluateAny_eq_ok_false] at hfails
    rw [hfails c hc] at htrue
    cases htrue

end Condition
end ShapePuzzle
