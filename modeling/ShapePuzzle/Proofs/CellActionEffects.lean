import ShapePuzzle.Proofs.ForcedConditions
import ShapePuzzle.Proofs.ValueEquality
import ShapePuzzle.Rule.Enforcement

/-!
# What actions on a cell do

An action changes no other properties than it writes, and its postcondition depends on no others than it
checks. An action that was applied has come to hold, and one that needs a break does not hold. Breaking the
antecedent makes it false or is logged as a failure.
-/
namespace ShapePuzzle

/-- The reference gives no value that differs from itself, as one that is not a number does. -/
def Ref.Regular (details : Details) : Ref → Prop
  | .placeholder k | .placeholderName k => ∀ v, details.lookup k = some v → v.strictlyEquals v = true
  | .constant v => v.strictlyEquals v = true
  | .number n => n.equals n = true
  | .cellProperty _ | .neighborProperty _ => True

/-- Every property equals itself. -/
def Cell.Regular (c : Cell) : Prop := ∀ p, (c.get p).strictlyEquals (c.get p) = true

theorem Cell.Ordinary.regular {c : Cell} (h : c.Ordinary) : c.Regular :=
  fun p => (Property.strictlyEquals_iff_of_mem_domain (h p) (h p)).2 rfl

theorem Details.find_eq_ok {details : Details} {k : String} {v : Value} :
    details.find k = .ok v ↔ details.lookup k = some v := by
  unfold Details.find
  cases details.lookup k with
  | none => simp
  | some w => simp

theorem Ref.Regular.resolve {details : Details} {r : Ref} {ctx : Context} (hr : r.Regular details)
    (hctx : ctx.details = details) (hcell : ∀ c, ctx.cell = some c → c.Regular)
    (hneighbor : ∀ c, ctx.neighbor = some c → c.Regular) {v : Value} (h : r.resolve ctx = .ok v) :
    v.strictlyEquals v = true := by
  subst hctx
  cases r with
  | placeholder k => exact hr v (Details.find_eq_ok.1 h)
  | placeholderName k => exact hr v (Details.find_eq_ok.1 h)
  | constant w =>
    cases h
    exact hr
  | number n =>
    cases h
    exact hr
  | cellProperty p =>
    simp only [Ref.resolve] at h
    cases hc : ctx.cell with
    | none => simp [hc] at h
    | some c =>
      rw [hc] at h
      cases h
      exact hcell c hc p
  | neighborProperty p =>
    simp only [Ref.resolve] at h
    cases hc : ctx.neighbor with
    | none => simp [hc] at h
    | some c =>
      rw [hc] at h
      cases h
      exact hneighbor c hc p

namespace CellAction

/-- Whether carrying out the action may change a property. -/
def writes : CellAction → Property → Bool
  | set p _, q | setDistinct p _, q => p = q
  | requireRegion _ _, _ => false
  | ensure c, q | .break c, q => c.reads q

/-- Whether the postcondition of the action looks at a property. -/
def checks : CellAction → Property → Bool
  | set p v, q => p = q || v.reads q
  | setDistinct p _, q => p = q
  | requireRegion d s, q => d.reads q || s.reads q
  | ensure c, q | .break c, q => c.reads q

/-- The action sets no value that differs from itself. -/
def Regular (details : Details) : CellAction → Prop
  | set _ v => v.Regular details
  | _ => True

variable {details : Details} {size : Int} {st st' : Cell × Luck} {a : CellAction} {status : Status}

theorem apply_set_eq_ok {p : Property} {v : Ref} :
    ((set p v).apply details size) st = .ok status st' ↔
      ∃ w, v.resolve (st.1.context details size) = .ok w ∧ .applied = status ∧ (st.1.set p w, st.2) = st' := by
  simp only [apply, Turn.bind_eq_ok, Turn.subject_eq_ok, Turn.ofExcept_eq_ok, Turn.become_eq_ok, Turn.pure_eq_ok]
  constructor
  · rintro ⟨cell, _, ⟨rfl, rfl⟩, w, _, ⟨hw, rfl⟩, _, _, rfl, rfl, rfl⟩
    exact ⟨w, hw, rfl, rfl⟩
  · rintro ⟨w, hw, rfl, rfl⟩
    exact ⟨st.1, st, ⟨rfl, rfl⟩, w, st, ⟨hw, rfl⟩, (), _, rfl, rfl, rfl⟩

theorem apply_setDistinct_spec {p : Property} {k : String}
    (h : ((setDistinct p k).apply details size) st = .ok status st') :
    ∃ w v, details.lookup k = some w ∧ v ∈ p.domain ∧ v.isIn [w] = false ∧ status = .applied ∧
      st'.1 = st.1.set p v := by
  simp only [apply, Turn.bind_eq_ok, Turn.subject_eq_ok, Turn.ofExcept_eq_ok, Turn.become_eq_ok,
    Turn.pure_eq_ok] at h
  obtain ⟨w, _, ⟨hw, rfl⟩, v, st₁, hv, cell, _, ⟨rfl, rfl⟩, _, _, rfl, rfl, rfl⟩ := h
  obtain ⟨hdom, hsame, hother⟩ := pickExcluding_spec hv
  exact ⟨w, v, Details.find_eq_ok.1 hw, hdom, hother (p.exists_other w), rfl, by rw [hsame]⟩

theorem apply_requireRegion_eq_ok {d s : Ref} :
    ((requireRegion d s).apply details size) st = .ok status st' ↔
      ∃ b, inRegion d s st.1 details size = .ok b ∧ .ofBool b = status ∧ st = st' := by
  simp only [apply, Turn.bind_eq_ok, Turn.subject_eq_ok, Turn.ofExcept_eq_ok, Turn.pure_eq_ok]
  constructor
  · rintro ⟨cell, _, ⟨rfl, rfl⟩, b, _, ⟨hb, rfl⟩, hstatus, rfl⟩
    exact ⟨b, hb, hstatus, rfl⟩
  · rintro ⟨b, hb, hstatus, rfl⟩
    exact ⟨st.1, st, ⟨rfl, rfl⟩, b, st, ⟨hb, rfl⟩, hstatus, rfl⟩

theorem apply_ensure_eq_ok {c : Condition} :
    ((ensure c).apply details size) st = .ok status st' ↔
      ∃ b, (c.force details size) st = .ok b st' ∧ .ofBool b = status := by
  simp only [apply, Turn.bind_eq_ok, Turn.pure_eq_ok]
  constructor
  · rintro ⟨b, _, hb, hstatus, rfl⟩
    exact ⟨b, hb, hstatus⟩
  · rintro ⟨b, hb, hstatus⟩
    exact ⟨b, st', hb, hstatus, rfl⟩

theorem apply_break_eq_ok {c : Condition} :
    ((CellAction.break c).apply details size) st = .ok status st' ↔
      ∃ b, ((Condition.not c).force details size) st = .ok b st' ∧ .ofBool b = status :=
  apply_ensure_eq_ok

theorem apply_frame (h : (a.apply details size) st = .ok status st') :
    st.1.AgreeOn (fun p => a.writes p = false) st'.1 := by
  cases a with
  | set p v =>
    obtain ⟨w, -, -, rfl⟩ := apply_set_eq_ok.1 h
    exact Cell.agreeOn_set (by simp [writes]) _ _
  | setDistinct p k =>
    obtain ⟨w, v, -, -, -, -, hst⟩ := apply_setDistinct_spec h
    rw [hst]
    exact Cell.agreeOn_set (by simp [writes]) _ _
  | requireRegion d s =>
    obtain ⟨b, -, -, rfl⟩ := apply_requireRegion_eq_ok.1 h
    exact .refl _ _
  | ensure c =>
    obtain ⟨b, hb, -⟩ := apply_ensure_eq_ok.1 h
    exact (Condition.force_spec c hb).2.agreeOn fun p hp => by simpa [writes] using hp
  | «break» c =>
    obtain ⟨b, hb, -⟩ := apply_break_eq_ok.1 h
    exact (Condition.force_spec (.not c) hb).2.agreeOn fun p hp => by simpa [writes, Condition.reads] using hp

private theorem ofBool_eq_applied {b : Bool} : Status.ofBool b = .applied ↔ b = true := by
  cases b <;> simp [Status.ofBool]

private theorem holds_set_self {p : Property} {v : Ref} {cell : Cell} {w : Value}
    (hw : v.resolve (cell.context details size) = .ok w) :
    (set p v).holds details size (cell.set p w) = .ok (w.strictlyEquals w) := by
  have hagain : v.resolve ((cell.set p w).context details size) = .ok w := by
    cases v with
    | cellProperty q =>
      by_cases hq : q = p
      · subst hq
        simp [Ref.resolve, Cell.context]
      · simpa [Ref.resolve, Cell.context, Cell.get_set_of_ne cell hq] using hw
    | _ => exact hw
  simp only [holds, hagain, Cell.get_set_self]
  rfl

/-- The status of an action tells whether its postcondition holds on the cell it leaves. -/
theorem holds_of_apply (ha : a.Regular details) (hcell : st.1.Regular)
    (h : (a.apply details size) st = .ok status st') :
    a.holds details size st'.1 = .ok (status = .applied : Bool) := by
  cases a with
  | set p v =>
    obtain ⟨w, hw, rfl, rfl⟩ := apply_set_eq_ok.1 h
    rw [holds_set_self hw]
    have hself := ha.resolve rfl (fun c hc => by cases hc; exact hcell) (fun c hc => by cases hc) hw
    simp [hself]
  | setDistinct p k =>
    obtain ⟨w, v, hw, -, hv, rfl, hst⟩ := apply_setDistinct_spec h
    have hne := Value.strictlyEquals_of_isIn_eq_false hv
    simp [holds, hst, hne, Details.find_eq_ok.2 hw, bind, Except.bind, pure, Except.pure]
  | requireRegion d s =>
    obtain ⟨b, hb, rfl, rfl⟩ := apply_requireRegion_eq_ok.1 h
    simp [holds, hb, ofBool_eq_applied]
  | ensure c =>
    obtain ⟨b, hb, rfl⟩ := apply_ensure_eq_ok.1 h
    simp [holds, (Condition.force_spec c hb).1, ofBool_eq_applied]
  | «break» c =>
    obtain ⟨b, hb, rfl⟩ := apply_break_eq_ok.1 h
    simpa [holds, Condition.evaluate, ofBool_eq_applied] using (Condition.force_spec (.not c) hb).1

theorem regular_of_apply (ha : a.Regular details) (hcell : st.1.Regular)
    (h : (a.apply details size) st = .ok status st') : st'.1.Regular := by
  have hset : ∀ {p : Property} {v : Value}, v.strictlyEquals v = true → (st.1.set p v).Regular := by
    intro p v hv q
    by_cases hq : q = p
    · subst hq
      rwa [Cell.get_set_self]
    · rw [Cell.get_set_of_ne _ hq]
      exact hcell q
  have hrefilled : ∀ {P : Property → Prop}, st.1.Refilled P st'.1 → st'.1.Regular := by
    intro P hP p
    rcases hP.value p with hsame | ⟨-, hdom⟩
    · rw [hsame]
      exact hcell p
    · exact (Property.strictlyEquals_iff_of_mem_domain hdom hdom).2 rfl
  cases a with
  | set p v =>
    obtain ⟨w, hw, -, rfl⟩ := apply_set_eq_ok.1 h
    exact hset (ha.resolve rfl (fun c hc => by cases hc; exact hcell) (fun c hc => by cases hc) hw)
  | setDistinct p k =>
    obtain ⟨w, v, -, hv, -, -, hst⟩ := apply_setDistinct_spec h
    rw [hst]
    exact hset ((Property.strictlyEquals_iff_of_mem_domain hv hv).2 rfl)
  | requireRegion d s =>
    obtain ⟨b, -, -, rfl⟩ := apply_requireRegion_eq_ok.1 h
    exact hcell
  | ensure c =>
    obtain ⟨b, hb, -⟩ := apply_ensure_eq_ok.1 h
    exact hrefilled (Condition.force_spec c hb).2
  | «break» c =>
    obtain ⟨b, hb, -⟩ := apply_break_eq_ok.1 h
    exact hrefilled (Condition.force_spec (.not c) hb).2

theorem silent_apply (a : CellAction) (details : Details) (size : Int) :
    Turn.Silent (a.apply details size) := by
  cases a with
  | set p v => exact .bind .subject fun _ => .bind (.ofExcept _) fun _ => .bind (.become _) fun _ => .pure _
  | setDistinct p k =>
    exact .bind (.ofExcept _) fun _ => .bind (silent_pickExcluding _ _) fun _ =>
      .bind .subject fun _ => .bind (.become _) fun _ => .pure _
  | requireRegion d s => exact .bind .subject fun _ => .bind (.ofExcept _) fun _ => .pure _
  | ensure c => exact .bind (Condition.silent_force details size c) fun _ => .pure _
  | «break» c => exact .bind (Condition.silent_force details size (.not c)) fun _ => .pure _

theorem holds_congr {cell cell' : Cell} (h : cell.AgreeOn (a.checks ·) cell') (details : Details) (size : Int) :
    a.holds details size cell = a.holds details size cell' := by
  have hctx : Context.AgreeOn (a.checks ·) (fun _ => False) (cell.context details size)
      (cell'.context details size) := ⟨rfl, rfl, .some h, .none⟩
  have hresolve : ∀ {r : Ref}, (∀ p, r.reads p = true → a.checks p = true) →
      r.resolve (cell.context details size) = r.resolve (cell'.context details size) := by
    intro r hr
    by_cases hn : ∃ q, r = .neighborProperty q
    · obtain ⟨q, rfl⟩ := hn
      rfl
    · refine Ref.resolve_congr hctx ⟨hr, fun p hp => ?_⟩
      cases r <;> simp_all [Ref.readsNeighbor]
  cases a with
  | set p v =>
    have hv := hresolve (r := v) fun q hq => by simp [checks, hq]
    simp only [holds, hv, h.2 p (by simp [checks])]
  | setDistinct p k => simp only [holds, h.2 p (by simp [checks])]
  | requireRegion d s =>
    have hd := hresolve (r := d) fun q hq => by simp [checks, hq]
    have hs := hresolve (r := s) fun q hq => by simp [checks, hq]
    simp only [holds, inRegion, hd, hs, h.1]
  | ensure c => simp only [holds, Condition.evaluate_context_congr h]
  | «break» c => simp only [holds, Condition.evaluate_context_congr h]

end CellAction

/-- What breaking an antecedent may change: what the antecedent reads and what the action for it writes. -/
def breakWrites (antecedent : Option Condition) (action : Option CellAction) (p : Property) : Prop :=
  Condition.reads? antecedent p = true ∨ ∃ a, action = some a ∧ a.writes p = true

section BreakAntecedent
variable {antecedent : Option Condition} {action : Option CellAction} {details : Details} {size : Int}
  {st st' : Cell × Luck}

private theorem breakAntecedent_eq (antecedent : Option Condition) (action : Option CellAction) :
    breakAntecedent antecedent action details size =
      (match action with
        | some a => do let _ ← a.apply details size
        | none => pure ()) >>= fun _ => breakAntecedent antecedent none details size := by
  cases action with
  | none => rfl
  | some a => simp [breakAntecedent]

theorem Condition.evaluate_not_eq_ok {c : Condition} {ctx : Context} {b : Bool} :
    (Condition.not c).evaluate ctx = .ok b ↔ c.evaluate ctx = .ok (!b) := by
  cases h : c.evaluate ctx with
  | error e => simp [Condition.evaluate, h, bind, Except.bind]
  | ok b' => cases b <;> cases b' <;> simp [Condition.evaluate, h, bind, Except.bind, pure, Except.pure]

/-- Breaking by force alone. -/
private theorem breakAntecedent_none_spec {u : Unit}
    (h : (breakAntecedent antecedent none details size) st = .ok u st') :
    st.1.AgreeOn (fun p => Condition.reads? antecedent p = false) st'.1 ∧
      (st'.2.warnings = st.2.warnings ∧
          Condition.evaluate? (st'.1.context details size) antecedent = .ok false ∨
        st'.2.warnings = st.2.warnings ++ [.antecedentKept st.1.position]) := by
  obtain ⟨cell, st₁, hs, h⟩ := Turn.bind_eq_ok.1 h
  obtain ⟨rfl, rfl⟩ := Turn.subject_eq_ok.1 hs
  obtain ⟨b, st₂, hb, h⟩ := Turn.bind_eq_ok.1 h
  obtain ⟨he, rfl⟩ := Turn.ofExcept_eq_ok.1 hb
  cases b with
  | false =>
    obtain ⟨-, rfl⟩ := Turn.pure_eq_ok.1 h
    exact ⟨.refl _ _, .inl ⟨rfl, he⟩⟩
  | true =>
    cases antecedent with
    | none =>
      simp only [if_true, Turn.bind_eq_ok, Turn.subject_eq_ok, Turn.warn_eq_ok] at h
      obtain ⟨_, _, ⟨rfl, rfl⟩, rfl⟩ := h
      exact ⟨.refl _ _, .inr rfl⟩
    | some c =>
      obtain ⟨b, st₁, hforce, h⟩ := Turn.bind_eq_ok.1 h
      obtain ⟨heval, hrefilled⟩ := Condition.force_spec (.not c) hforce
      have hframe : st.1.AgreeOn (fun p => Condition.reads? (some c) p = false) st₁.1 :=
        hrefilled.agreeOn fun p hp => by simpa [Condition.reads, Condition.reads?] using hp
      have hlog := (Condition.silent_force details size (.not c)).warnings_eq hforce
      cases b with
      | true =>
        obtain ⟨-, rfl⟩ := Turn.pure_eq_ok.1 h
        exact ⟨hframe, .inl ⟨hlog, Condition.evaluate_not_eq_ok.1 heval⟩⟩
      | false =>
        simp only [Bool.false_eq_true, if_false, Turn.bind_eq_ok, Turn.subject_eq_ok, Turn.warn_eq_ok] at h
        obtain ⟨_, _, ⟨rfl, rfl⟩, rfl⟩ := h
        exact ⟨hframe, .inr (by rw [hlog, hrefilled.position])⟩

/-- Unless it says so in the log, breaking leaves the antecedent false. -/
theorem breakAntecedent_spec {u : Unit} (h : (breakAntecedent antecedent action details size) st = .ok u st') :
    st.1.AgreeOn (fun p => ¬ breakWrites antecedent action p) st'.1 ∧
      (st'.2.warnings = st.2.warnings ∧
          Condition.evaluate? (st'.1.context details size) antecedent = .ok false ∨
        st'.2.warnings = st.2.warnings ++ [.antecedentKept st.1.position]) := by
  rw [breakAntecedent_eq] at h
  obtain ⟨u', st₁, hact, h⟩ := Turn.bind_eq_ok.1 h
  have hact : st.1.AgreeOn (fun p => ¬ breakWrites antecedent action p) st₁.1 ∧
      st₁.2.warnings = st.2.warnings := by
    cases action with
    | none =>
      obtain ⟨-, rfl⟩ := Turn.pure_eq_ok.1 hact
      exact ⟨.refl _ _, rfl⟩
    | some a =>
      obtain ⟨status, st₂, ha, hact⟩ := Turn.bind_eq_ok.1 hact
      obtain ⟨-, rfl⟩ := Turn.pure_eq_ok.1 hact
      refine ⟨(CellAction.apply_frame ha).mono fun p hp => ?_, (a.silent_apply details size).warnings_eq ha⟩
      simpa [breakWrites] using fun hw => hp (.inr ⟨a, rfl, hw⟩)
  obtain ⟨hframe, hlog⟩ := breakAntecedent_none_spec h
  rw [hact.2, ← hact.1.1] at hlog
  exact ⟨hact.1.trans (hframe.mono fun p hp => by simpa using fun hr => hp (.inl hr)), hlog⟩

/-- Breaking leaves every property equal to itself. -/
theorem regular_of_breakAntecedent (haction : ∀ a, action = some a → a.Regular details) (hcell : st.1.Regular)
    {u : Unit} (h : (breakAntecedent antecedent action details size) st = .ok u st') : st'.1.Regular := by
  rw [breakAntecedent_eq] at h
  obtain ⟨u', st₁, hact, h⟩ := Turn.bind_eq_ok.1 h
  have hcell₁ : st₁.1.Regular := by
    cases action with
    | none =>
      rw [← (Turn.pure_eq_ok.1 hact).2]
      exact hcell
    | some a =>
      obtain ⟨status, st₂, ha, hact⟩ := Turn.bind_eq_ok.1 hact
      rw [← (Turn.pure_eq_ok.1 hact).2]
      exact CellAction.regular_of_apply (haction a rfl) hcell ha
  obtain ⟨cell, _, hs, h⟩ := Turn.bind_eq_ok.1 h
  obtain ⟨-, rfl⟩ := Turn.subject_eq_ok.1 hs
  obtain ⟨b, _, hb, h⟩ := Turn.bind_eq_ok.1 h
  obtain ⟨-, rfl⟩ := Turn.ofExcept_eq_ok.1 hb
  cases b with
  | false =>
    rw [← (Turn.pure_eq_ok.1 h).2]
    exact hcell₁
  | true =>
    cases antecedent with
    | none =>
      simp only [if_true, Turn.bind_eq_ok, Turn.subject_eq_ok, Turn.warn_eq_ok] at h
      obtain ⟨_, _, ⟨-, rfl⟩, rfl⟩ := h
      exact hcell₁
    | some c =>
      obtain ⟨b, st₂, hforce, h⟩ := Turn.bind_eq_ok.1 h
      have hcell₂ : st₂.1.Regular := CellAction.regular_of_apply (a := .ensure (.not c)) trivial
        hcell₁ (CellAction.apply_ensure_eq_ok.2 ⟨b, hforce, rfl⟩)
      cases b with
      | true =>
        rw [← (Turn.pure_eq_ok.1 h).2]
        exact hcell₂
      | false =>
        simp only [Bool.false_eq_true, if_false, Turn.bind_eq_ok, Turn.subject_eq_ok, Turn.warn_eq_ok] at h
        obtain ⟨_, _, ⟨-, rfl⟩, rfl⟩ := h
        exact hcell₂

theorem logs_breakAntecedent (antecedent : Option Condition) (action : Option CellAction) (details : Details)
    (size : Int) : Turn.Logs (fun w => ∃ p, w = .antecedentKept p)
      (breakAntecedent antecedent action details size) := by
  rw [breakAntecedent_eq]
  refine .bind ?_ fun _ => .bind .subject fun cell => .bind (.ofExcept _) fun b => ?_
  · cases action with
    | none => exact .pure _
    | some a => exact .bind (.of_silent (a.silent_apply details size)) fun _ => .pure _
  · cases b with
    | false => exact .pure _
    | true =>
      cases antecedent with
      | none => exact .bind .subject fun _ => .warn ⟨_, rfl⟩
      | some c =>
        refine .bind (.of_silent (Condition.silent_force details size (.not c))) fun b => ?_
        cases b with
        | true => exact .pure _
        | false => exact .bind .subject fun _ => .warn ⟨_, rfl⟩

end BreakAntecedent
end ShapePuzzle
