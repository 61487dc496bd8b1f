import ShapePuzzle.Proofs.ConditionReads
import ShapePuzzle.Proofs.Draws

/-!
# What forcing a condition does to a cell

Forcing says truly whether the condition holds afterwards, changes no property that the condition does not
read, and draws every value it changes from its domain. It logs nothing.
-/
namespace ShapePuzzle

namespace Cell

/-- What some properties of a cell were drawn anew: all else is as it was. -/
structure Refilled (P : Property → Prop) (c d : Cell) : Prop where
  position : d.position = c.position
  value : ∀ p, d.get p = c.get p ∨ P p ∧ d.get p ∈ p.domain

/-- Every property has a value of its domain. -/
def Ordinary (c : Cell) : Prop := ∀ p, c.get p ∈ p.domain

namespace Refilled
variable {P Q : Property → Prop} {c d e : Cell}

theorem refl (P : Property → Prop) (c : Cell) : Refilled P c c :=
  ⟨rfl, fun _ => .inl rfl⟩

theorem trans (h : Refilled P c d) (h' : Refilled P d e) : Refilled P c e := by
  refine ⟨h'.position.trans h.position, fun p => ?_⟩
  rcases h'.value p with he | he
  · rw [he]
    exact h.value p
  · exact .inr he

theorem mono (h : Refilled P c d) (hQ : ∀ p, P p → Q p) : Refilled Q c d := by
  refine ⟨h.position, fun p => ?_⟩
  rcases h.value p with hd | ⟨hp, hd⟩
  · exact .inl hd
  · exact .inr ⟨hQ p hp, hd⟩

theorem agreeOn (h : Refilled P c d) (hQ : ∀ p, Q p → ¬ P p) : AgreeOn Q c d := by
  refine ⟨h.position.symm, fun p hp => ?_⟩
  rcases h.value p with hd | ⟨hP, -⟩
  · exact hd.symm
  · exact absurd hP (hQ p hp)

theorem ordinary (h : Refilled P c d) (hc : c.Ordinary) : d.Ordinary := by
  intro p
  rcases h.value p with hd | ⟨-, hd⟩
  · rw [hd]
    exact hc p
  · exact hd

end Refilled

theorem refilled_set {P : Property → Prop} {p : Property} {v : Value} (hp : P p) (hv : v ∈ p.domain) (c : Cell) :
    Refilled P c (c.set p v) := by
  refine ⟨position_set c p v, fun q => ?_⟩
  by_cases hq : q = p
  · subst hq
    exact .inr ⟨hp, by rwa [get_set_self]⟩
  · exact .inl (get_set_of_ne c hq v)

end Cell

namespace Condition
variable {details : Details} {size : Int} {st st' : Cell × Luck}

theorem onCell_eq_ok {c : Condition} {b : Bool} :
    (c.onCell details size) st = .ok b st' ↔ c.evaluate (st.1.context details size) = .ok b ∧ st = st' := by
  simp only [onCell, Turn.bind_eq_ok, Turn.subject_eq_ok, Turn.ofExcept_eq_ok]
  constructor
  · rintro ⟨cell, st₁, ⟨rfl, rfl⟩, h, rfl⟩
    exact ⟨h, rfl⟩
  · rintro ⟨h, rfl⟩
    exact ⟨st.1, st, ⟨rfl, rfl⟩, h, rfl⟩

private theorem refilled_cons {c : Condition} {cs : List Condition} {x y z : Cell} (h : x.Refilled (c.reads ·) y)
    (h' : y.Refilled (someReads cs ·) z) : x.Refilled (someReads (c :: cs) ·) z := by
  refine .trans (h.mono fun p hp => ?_) (h'.mono fun p hp => ?_)
  · simp [someReads, hp]
  · simp [someReads, hp]

theorem mem_of_fitting {c : Condition} {cell : Cell} {p : Property} {vs ws : List Value}
    (h : c.fitting details size cell p vs = .ok ws) (v : Value) :
    v ∈ ws ↔ v ∈ vs ∧ c.evaluate ((cell.set p v).context details size) = .ok true := by
  induction vs generalizing ws with
  | nil =>
    cases h
    simp
  | cons u us ih =>
    simp only [fitting] at h
    cases he : c.evaluate ((cell.set p u).context details size) with
    | error e => simp [he, bind, Except.bind] at h
    | ok b =>
      cases hr : c.fitting details size cell p us with
      | error e => simp [he, hr, bind, Except.bind] at h
      | ok rest =>
        simp only [he, hr, bind, Except.bind, pure, Except.pure, Except.ok.injEq] at h
        subst h
        cases b with
        | true =>
          simp only [if_true, List.mem_cons, ih hr]
          grind
        | false =>
          simp only [Bool.false_eq_true, if_false, List.mem_cons, ih hr]
          grind

/-- Filling leaves the cell alone or gives the property a fitting value. -/
theorem fill_spec {c : Condition} {p : Property} {u : Unit} (h : (c.fill details size p) st = .ok u st') :
    ∃ values, c.fitting details size st.1 p p.domain = .ok values ∧
      (st'.1 = st.1 ∧ (values = [] ∨ (st.1.get p).isIn values = true) ∨
        ∃ v ∈ values, st'.1 = st.1.set p v) := by
  obtain ⟨cell, st₁, hs, h⟩ := Turn.bind_eq_ok.1 h
  obtain ⟨rfl, rfl⟩ := Turn.subject_eq_ok.1 hs
  obtain ⟨values, st₂, hfit, h⟩ := Turn.bind_eq_ok.1 h
  obtain ⟨hvalues, rfl⟩ := Turn.ofExcept_eq_ok.1 hfit
  refine ⟨values, hvalues, ?_⟩
  split at h
  · rename_i hcond
    obtain ⟨-, rfl⟩ := Turn.pure_eq_ok.1 h
    simp only [Bool.or_eq_true, List.isEmpty_iff] at hcond
    exact .inl ⟨rfl, hcond⟩
  · obtain ⟨v, st₃, hp, h⟩ := Turn.bind_eq_ok.1 h
    obtain ⟨hmem, -⟩ := pick_spec hp
    rw [← Turn.become_eq_ok.1 h]
    exact .inr ⟨v, hmem, rfl⟩

theorem fill_refilled {c : Condition} {p : Property} {u : Unit} (hp : c.reads p = true)
    (h : (c.fill details size p) st = .ok u st') : st.1.Refilled (c.reads ·) st'.1 := by
  obtain ⟨values, hv, hs | ⟨v, hmem, hs⟩⟩ := fill_spec h
  · rw [hs.1]
    exact .refl _ _
  · rw [hs]
    exact Cell.refilled_set hp ((mem_of_fitting hv v).1 hmem).1 _

theorem silent_onCell (c : Condition) (details : Details) (size : Int) : Turn.Silent (c.onCell details size) :=
  .bind .subject fun _ => .ofExcept _

theorem silent_fill (c : Condition) (details : Details) (size : Int) (p : Property) :
    Turn.Silent (c.fill details size p) := by
  refine .bind .subject fun cell => .bind (.ofExcept _) fun values => ?_
  split
  · exact .pure _
  · exact .bind (silent_pick _) fun _ => .become _

theorem fillEach_refilled {c : Condition} {ps : List Property} {u : Unit} (hps : ∀ p ∈ ps, c.reads p = true)
    (h : (c.fillEach details size ps) st = .ok u st') : st.1.Refilled (c.reads ·) st'.1 := by
  induction ps generalizing st with
  | nil =>
    obtain ⟨-, rfl⟩ := Turn.pure_eq_ok.1 h
    exact .refl _ _
  | cons p ps ih =>
    obtain ⟨b, st₁, hb, h⟩ := Turn.bind_eq_ok.1 h
    obtain ⟨-, rfl⟩ := onCell_eq_ok.1 hb
    cases b with
    | true =>
      obtain ⟨-, rfl⟩ := Turn.pure_eq_ok.1 h
      exact .refl _ _
    | false =>
      obtain ⟨u', st₂, hf, h⟩ := Turn.bind_eq_ok.1 h
      have hrest := ih (fun q hq => hps q (List.mem_cons_of_mem p hq)) h
      exact (fill_refilled (hps p List.mem_cons_self) hf).trans hrest

theorem silent_fillEach (c : Condition) (details : Details) (size : Int) (ps : List Property) :
    Turn.Silent (c.fillEach details size ps) := by
  induction ps with
  | nil => exact .pure _
  | cons p ps ih =>
    refine .bind (silent_onCell c details size) fun b => ?_
    cases b with
    | true => exact .pure _
    | false => exact .bind (silent_fill c details size p) fun _ => ih

theorem refill_spec {c : Condition} {ps : List Property} {b : Bool} (hps : ∀ p ∈ ps, c.reads p = true)
    (hfalse : c.evaluate (st.1.context details size) = .ok false)
    (h : (c.refill details size ps) st = .ok b st') :
    c.evaluate (st'.1.context details size) = .ok b ∧ st.1.Refilled (c.reads ·) st'.1 := by
  induction ps generalizing st with
  | nil =>
    obtain ⟨rfl, rfl⟩ := Turn.pure_eq_ok.1 h
    exact ⟨hfalse, .refl _ _⟩
  | cons p ps ih =>
    obtain ⟨u, st₁, hf, h⟩ := Turn.bind_eq_ok.1 h
    have hfill := fill_refilled (hps p List.mem_cons_self) hf
    obtain ⟨b', st₂, hb, h⟩ := Turn.bind_eq_ok.1 h
    obtain ⟨he, rfl⟩ := onCell_eq_ok.1 hb
    cases b' with
    | true =>
      obtain ⟨rfl, rfl⟩ := Turn.pure_eq_ok.1 h
      exact ⟨he, hfill⟩
    | false =>
      obtain ⟨hb, hrest⟩ := ih (fun q hq => hps q (List.mem_cons_of_mem p hq)) he h
      exact ⟨hb, hfill.trans hrest⟩

theorem silent_refill (c : Condition) (details : Details) (size : Int) (ps : List Property) :
    Turn.Silent (c.refill details size ps) := by
  induction ps with
  | nil => exact .pure _
  | cons p ps ih =>
    refine .bind (silent_fill c details size p) fun _ => .bind (silent_onCell c details size) fun b => ?_
    cases b with
    | true => exact .pure _
    | false => exact ih

theorem attempt_spec {c : Condition} {work : Turn Cell Unit} {b : Bool}
    (hwork : ∀ {st u st'}, work st = .ok u st' → st.1.Refilled (c.reads ·) st'.1)
    (h : (c.attempt details size work) st = .ok b st') :
    c.evaluate (st'.1.context details size) = .ok b ∧ st.1.Refilled (c.reads ·) st'.1 := by
  obtain ⟨b₁, st₁, h₁, h⟩ := Turn.bind_eq_ok.1 h
  obtain ⟨he, rfl⟩ := onCell_eq_ok.1 h₁
  cases b₁ with
  | true =>
    obtain ⟨rfl, rfl⟩ := Turn.pure_eq_ok.1 h
    exact ⟨he, .refl _ _⟩
  | false =>
    obtain ⟨u, st₂, hw, h⟩ := Turn.bind_eq_ok.1 h
    have hrefilled := hwork hw
    obtain ⟨b₂, st₃, h₂, h⟩ := Turn.bind_eq_ok.1 h
    obtain ⟨he, rfl⟩ := onCell_eq_ok.1 h₂
    cases b₂ with
    | true =>
      obtain ⟨rfl, rfl⟩ := Turn.pure_eq_ok.1 h
      exact ⟨he, hrefilled⟩
    | false =>
      obtain ⟨hb, hrest⟩ := refill_spec (fun p hp => mem_properties.1 hp) he h
      exact ⟨hb, hrefilled.trans hrest⟩

theorem silent_attempt (c : Condition) (details : Details) (size : Int) {work : Turn Cell Unit}
    (h : Turn.Silent work) : Turn.Silent (c.attempt details size work) := by
  refine .bind (silent_onCell c details size) fun b => ?_
  cases b with
  | true => exact .pure _
  | false =>
    refine .bind h fun _ => .bind (silent_onCell c details size) fun b => ?_
    cases b with
    | true => exact .pure _
    | false => exact silent_refill c details size _

mutual

/-- Forcing tells whether the condition holds on the cell it leaves, and touches only what the condition
reads. -/
theorem force_spec : ∀ (c : Condition) {st st' : Cell × Luck} {b : Bool}, (c.force details size) st = .ok b st' →
    c.evaluate (st'.1.context details size) = .ok b ∧ st.1.Refilled (c.reads ·) st'.1
  | .all cs, _, _, _, h =>
    attempt_spec (fun hw => (forceAll_refilled cs hw).mono fun p hp => by simpa [reads] using hp) h
  | .any cs, _, _, _, h =>
    attempt_spec (fun hw => (forceAny_refilled cs hw).mono fun p hp => by simpa [reads] using hp) h
  | .not _, _, _, _, h | .compare _ _ _, _, _, _, h | .between _ _ _, _, _, _, h | .parity _ _, _, _, _, h
  | .prime _, _, _, _, h | .multipleOf _ _, _, _, _, h | .inRegion _ _, _, _, _, h =>
    attempt_spec (fun hw => fillEach_refilled (fun p hp => mem_properties.1 hp) hw) h

theorem forceAll_refilled : ∀ (cs : List Condition) {st st' : Cell × Luck} {u : Unit},
    (forceAll details size cs) st = .ok u st' → st.1.Refilled (someReads cs ·) st'.1
  | [], _, _, _, h => by
    obtain ⟨-, rfl⟩ := Turn.pure_eq_ok.1 h
    exact .refl _ _
  | c :: cs, _, _, _, h => by
    obtain ⟨b, st₁, hc, h⟩ := Turn.bind_eq_ok.1 h
    exact refilled_cons (force_spec c hc).2 (forceAll_refilled cs h)

theorem forceAny_refilled : ∀ (cs : List Condition) {st st' : Cell × Luck} {u : Unit},
    (forceAny details size cs) st = .ok u st' → st.1.Refilled (someReads cs ·) st'.1
  | [], _, _, _, h => by
    obtain ⟨-, rfl⟩ := Turn.pure_eq_ok.1 h
    exact .refl _ _
  | c :: cs, _, _, _, h => by
    obtain ⟨b, st₁, hc, h⟩ := Turn.bind_eq_ok.1 h
    cases b with
    | true =>
      obtain ⟨-, rfl⟩ := Turn.pure_eq_ok.1 h
      exact refilled_cons (force_spec c hc).2 (.refl _ _)
    | false => exact refilled_cons (force_spec c hc).2 (forceAny_refilled cs h)

end

mutual

theorem silent_force (details : Details) (size : Int) : ∀ (c : Condition), Turn.Silent (c.force details size)
  | .all cs => silent_attempt _ details size (silent_forceAll details size cs)
  | .any cs => silent_attempt _ details size (silent_forceAny details size cs)
  | .not _ | .compare _ _ _ | .between _ _ _ | .parity _ _ | .prime _ | .multipleOf _ _ | .inRegion _ _ =>
    silent_attempt _ details size (silent_fillEach _ details size _)

theorem silent_forceAll (details : Details) (size : Int) :
    ∀ (cs : List Condition), Turn.Silent (forceAll details size cs)
  | [] => .pure _
  | c :: cs => .bind (silent_force details size c) fun _ => silent_forceAll details size cs

theorem silent_forceAny (details : Details) (size : Int) :
    ∀ (cs : List Condition), Turn.Silent (forceAny details size cs)
  | [] => .pure _
  | c :: cs => .bind (silent_force details size c) fun b => by
    cases b with
    | true => exact .pure _
    | false => exact silent_forceAny details size cs

end

/-- Every condition is attempted by work that draws only what the condition reads. -/
theorem force_eq_attempt (details : Details) (size : Int) (c : Condition) :
    ∃ work : Turn Cell Unit, c.force details size = c.attempt details size work ∧
      ∀ {st u st'}, work st = .ok u st' → st.1.Refilled (c.reads ·) st'.1 := by
  cases c with
  | all cs =>
    exact ⟨_, rfl, fun h => (forceAll_refilled cs h).mono fun p hp => by simpa [reads] using hp⟩
  | any cs =>
    exact ⟨_, rfl, fun h => (forceAny_refilled cs h).mono fun p hp => by simpa [reads] using hp⟩
  | _ => exact ⟨_, rfl, fun h => fillEach_refilled (fun p hp => mem_properties.1 hp) h⟩

section Attempt
variable {c : Condition} {cell cell' : Cell} {luck luck' : Luck} {b : Bool}

/-- An attempt that was not successful before the last resort did not find the condition to hold. -/
theorem attempt_cases {work : Turn Cell Unit} (h : (c.attempt details size work) (cell, luck) = .ok b st') :
    b = true ∨ c.evaluate (cell.context details size) = .ok false ∧
      ∃ u st, work (cell, luck) = .ok u st ∧ c.evaluate (st.1.context details size) = .ok false ∧
        (c.refill details size c.properties) st = .ok b st' := by
  obtain ⟨b₁, _, h₁, h⟩ := Turn.bind_eq_ok.1 h
  obtain ⟨he₁, rfl⟩ := onCell_eq_ok.1 h₁
  cases b₁ with
  | true => exact .inl (Turn.pure_eq_ok.1 h).1.symm
  | false =>
    obtain ⟨u, st, hrun, h⟩ := Turn.bind_eq_ok.1 h
    obtain ⟨b₂, _, h₂, h⟩ := Turn.bind_eq_ok.1 h
    obtain ⟨he₂, rfl⟩ := onCell_eq_ok.1 h₂
    cases b₂ with
    | true => exact .inl (Turn.pure_eq_ok.1 h).1.symm
    | false => exact .inr ⟨he₁, u, _, hrun, he₂, h⟩

/-- Where the condition holds forcing returns at once. -/
theorem force_of_evaluate (h : c.evaluate (st.1.context details size) = .ok true) :
    (c.force details size) st = .ok true st := by
  obtain ⟨work, heq, -⟩ := force_eq_attempt details size c
  rw [heq]
  exact Turn.bind_eq_ok.2 ⟨true, st, onCell_eq_ok.2 ⟨h, rfl⟩, rfl⟩

/-- Forcing is in vain only where the condition did not hold. -/
theorem evaluate_of_force_false (h : (c.force details size) (cell, luck) = .ok false st') :
    c.evaluate (cell.context details size) = .ok false := by
  obtain ⟨work, heq, -⟩ := force_eq_attempt details size c
  rw [heq] at h
  rcases attempt_cases h with hdone | ⟨hfails, -⟩
  · cases hdone
  · exact hfails

/-- Forcing tells whether the condition holds afterwards. The cell stays where it is, properties that the condition
does not look at keep their values, and those that change get values of their domains. Where the condition holds
already nothing is changed and nothing drawn. -/
theorem kept_of_force (h : (c.force details size) (cell, luck) = .ok b (cell', luck')) :
    c.evaluate (cell'.context details size) = .ok b ∧
      cell'.position = cell.position ∧
      (∀ p, p ∉ c.properties → cell'.get p = cell.get p) ∧
      (∀ p, cell'.get p ≠ cell.get p → cell'.get p ∈ p.domain) ∧
      (c.evaluate (cell.context details size) = .ok true → cell' = cell ∧ luck' = luck) := by
  obtain ⟨hholds, hrefilled⟩ := force_spec c h
  refine ⟨hholds, hrefilled.position, fun p hp => ?_, fun p hchanged => ?_, fun htrue => ?_⟩
  · rcases hrefilled.value p with hsame | ⟨hread, -⟩
    · exact hsame
    · exact absurd (mem_properties.2 hread) hp
  · rcases hrefilled.value p with hsame | ⟨-, hdomain⟩
    · exact absurd hsame hchanged
    · exact hdomain
  · have hrun : (c.force details size) (cell, luck) = .ok true (cell, luck) := force_of_evaluate htrue
    rw [hrun] at h
    cases h
    exact ⟨rfl, rfl⟩

/-- A circle in the last column. -/
def circleAtRight : Condition :=
  .all [.compare .equals (.cellProperty .shape) (.constant (.text "circle")),
    .inRegion (.constant (.text "right")) (.number (.int 1))]

/-- A cell whose color and number are of no domain. -/
def oddCell (shape : String) (col : Int) : Cell := ⟨.text shape, .list [], .text "many", ⟨0, col⟩⟩

/-- A square in the first column becomes a circle in vain, as it cannot move, and its number is still none; a circle
in the last column is left alone. -/
theorem kept_of_force_oddCell : ∃ cell luck cell' luck',
    (circleAtRight.force [] 5) (oddCell "square" 0, .start fun _ => 1) = .ok false (cell, luck) ∧
      cell.get .shape ≠ .text "square" ∧ cell.get .shape ∈ Property.domain .shape ∧
      cell.get .number = .text "many" ∧ cell.position = ⟨0, 0⟩ ∧
      circleAtRight.evaluate (cell.context [] 5) = .ok false ∧
    (circleAtRight.force [] 5) (oddCell "circle" 4, .start fun _ => 1) = .ok true (cell', luck') ∧
      cell' = oddCell "circle" 4 ∧ luck' = .start fun _ => 1 := by
  obtain ⟨cell, luck, hrun, hshape⟩ : ∃ cell luck,
      (circleAtRight.force [] 5) (oddCell "square" 0, .start fun _ => 1) = .ok false (cell, luck) ∧
        cell.get .shape = .text "circle" := ⟨_, _, rfl, rfl⟩
  obtain ⟨cell', luck', hrun'⟩ : ∃ cell' luck',
      (circleAtRight.force [] 5) (oddCell "circle" 4, .start fun _ => 1) = .ok true (cell', luck') := ⟨_, _, rfl⟩
  obtain ⟨hfails, hposition, hkept, hdomain, -⟩ := kept_of_force hrun
  have hchanged : cell.get .shape ≠ .text "square" := by simp [hshape]
  obtain ⟨hsame, hluck⟩ := (kept_of_force hrun').2.2.2.2 rfl
  exact ⟨cell, luck, cell', luck', hrun, hchanged, hdomain .shape hchanged, hkept .number (by decide), hposition, hfails,
    hrun', hsame, hluck⟩

end Attempt
end Condition
end ShapePuzzle
