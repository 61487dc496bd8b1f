import ShapePuzzle.Proofs.QuietViolation
import ShapePuzzle.Proofs.TurnOutcomes

/-!
# Cells on which a rule fails

A rule that fails on a cell is not verified. Here is what the parts of a violation do to the cell they work on: an
action that is refuted, an action on a neighbor that stops, and an antecedent that is forced onto a copy.
-/
namespace ShapePuzzle

namespace Rule

/-- Whether a cell of the grid is decided in favor of the rule. -/
def holdsOn (details : Details) (g : Grid) (cell : Cell) : Rule → Except Fault Bool
  | implication r => r.holdsOn details g.size cell
  | requirement r => r.holdsOn details g cell

/-- The rule fails on some cell. -/
def RefutedOn (rule : Rule) (details : Details) (g : Grid) : Prop :=
  ∃ c ∈ g.cells, rule.holdsOn details g c = .ok false

theorem verify_eq_allM (rule : Rule) (details : Details) (g : Grid) :
    rule.verify details g = g.cells.allM fun c => rule.holdsOn details g c := by
  cases rule <;> rfl

variable {rule : Rule} {details : Details} {g : Grid}

theorem RefutedOn.verify_ne (h : rule.RefutedOn details g) : rule.verify details g ≠ .ok true := by
  obtain ⟨c, hc, hfalse⟩ := h
  rw [verify_eq_allM]
  intro htrue
  rw [allM_eq_ok_true.1 htrue c hc] at hfalse
  cases hfalse

theorem RefutedOn.verifyAll_ne {rules : List Rule} (hrule : rule ∈ rules) (h : rule.RefutedOn details g) :
    verifyAll details g rules ≠ .ok true :=
  fun htrue => h.verify_ne (allM_eq_ok_true.1 htrue rule hrule)

end Rule

theorem Turn.Meets.bind_commit {β : Type} {st : Grid × Luck} {k : Nat} {c found : Cell} {f : Unit → Turn Grid β}
    {R : β → Grid × Luck → Prop} {E : Fault → Grid × Luck → Prop} (hc : st.1.cells[k]? = some c)
    (hpos : found.position = c.position) (h : Turn.Meets (f ()) (st.1.put k found, st.2) R E) :
    Turn.Meets (Turn.commit k found >>= f) st R E := by
  have hcommit : Turn.commit k found st = .ok () (st.1.put k found, st.2) := by
    change EStateM.Result.ok () _ = _
    simp only [hc, Cell.adopt_of_position hpos]
  exact .bind (Q := fun _ st' => st' = (st.1.put k found, st.2)) (.of_run (fun _ _ hrun => by
    rw [hcommit] at hrun
    cases hrun
    rfl) fun _ _ hrun => by
    rw [hcommit] at hrun
    cases hrun) (by
    rintro u st' rfl
    exact h)

namespace CellAction
variable {a : CellAction} {details : Details} {size : Int} {st st' : Cell × Luck} {b : Bool}

theorem silent_refute (a : CellAction) (details : Details) (size : Int) :
    Turn.Silent (a.refute details size) := by
  have hjudge : Turn.Silent (do
      return !(← Turn.ofExcept (a.holds details size (← Turn.subject))) : Turn Cell Bool) :=
    .bind .subject fun _ => .bind (.ofExcept _) fun _ => .pure _
  cases a with
  | set p v =>
    exact .bind .subject fun _ => .bind (.ofExcept _) fun _ => .bind (silent_pickExcluding _ _) fun _ =>
      .bind .subject fun _ => .bind (.become _) fun _ => hjudge
  | setDistinct p k =>
    exact .bind (.ofExcept _) fun _ => .bind .subject fun _ => .bind (.become _) fun _ => hjudge
  | requireRegion d s => exact hjudge
  | ensure c => exact .bind (Condition.silent_force details size (.not c)) fun _ => hjudge
  | «break» c => exact .bind (Condition.silent_force details size c) fun _ => hjudge

private theorem holds_of_judge {st₁ : Cell × Luck} (h : (do
    return !(← Turn.ofExcept (a.holds details size (← Turn.subject))) : Turn Cell Bool) st₁ = .ok b st') :
    st' = st₁ ∧ a.holds details size st'.1 = .ok (!b) := by
  obtain ⟨c, _, hs, h⟩ := Turn.bind_eq_ok.1 h
  obtain ⟨rfl, rfl⟩ := Turn.subject_eq_ok.1 hs
  obtain ⟨b', _, hb, h⟩ := Turn.bind_eq_ok.1 h
  obtain ⟨hholds, rfl⟩ := Turn.ofExcept_eq_ok.1 hb
  obtain ⟨rfl, rfl⟩ := Turn.pure_eq_ok.1 h
  rw [Bool.not_not]
  exact ⟨rfl, hholds⟩

theorem refute_set_spec {p : Property} {v : Ref} (h : ((set p v).refute details size) st = .ok b st') :
    (∃ w other, v.resolve (st.1.context details size) = .ok w ∧ other.isIn [w] = false ∧ st'.1 = st.1.set p other) ∧
      (set p v).holds details size st'.1 = .ok (!b) := by
  obtain ⟨c, _, hs, h⟩ := Turn.bind_eq_ok.1 h
  obtain ⟨rfl, rfl⟩ := Turn.subject_eq_ok.1 hs
  obtain ⟨w, _, hw, h⟩ := Turn.bind_eq_ok.1 h
  obtain ⟨hresolve, rfl⟩ := Turn.ofExcept_eq_ok.1 hw
  obtain ⟨other, st₁, hother, h⟩ := Turn.bind_eq_ok.1 h
  obtain ⟨c, _, hs, h⟩ := Turn.bind_eq_ok.1 h
  obtain ⟨rfl, rfl⟩ := Turn.subject_eq_ok.1 hs
  obtain ⟨_, st₂, hbecome, h⟩ := Turn.bind_eq_ok.1 h
  obtain ⟨-, hsame, hdistinct⟩ := pickExcluding_spec hother
  obtain ⟨rfl, hholds⟩ := holds_of_judge h
  refine ⟨⟨w, other, hresolve, hdistinct (p.exists_other w), ?_⟩, hholds⟩
  rw [← Turn.become_eq_ok.1 hbecome, hsame]

theorem refute_setDistinct_spec {p : Property} {k : String}
    (h : ((setDistinct p k).refute details size) st = .ok b st') :
    (∃ w, details.lookup k = some w ∧ st'.1 = st.1.set p w) ∧
      (setDistinct p k).holds details size st'.1 = .ok (!b) := by
  obtain ⟨w, _, hw, h⟩ := Turn.bind_eq_ok.1 h
  obtain ⟨hfind, rfl⟩ := Turn.ofExcept_eq_ok.1 hw
  obtain ⟨c, _, hs, h⟩ := Turn.bind_eq_ok.1 h
  obtain ⟨rfl, rfl⟩ := Turn.subject_eq_ok.1 hs
  obtain ⟨_, st₂, hbecome, h⟩ := Turn.bind_eq_ok.1 h
  obtain ⟨rfl, hholds⟩ := holds_of_judge h
  exact ⟨⟨w, Details.find_eq_ok.1 hfind, by rw [← Turn.become_eq_ok.1 hbecome]⟩, hholds⟩

/-- Refuting moves nothing. -/
theorem position_of_refute (h : (a.refute details size) st = .ok b st') : st'.1.position = st.1.position := by
  cases a with
  | set p v =>
    obtain ⟨⟨w, other, -, -, hset⟩, -⟩ := refute_set_spec h
    rw [hset, Cell.position_set]
  | setDistinct p k =>
    obtain ⟨⟨w, -, hset⟩, -⟩ := refute_setDistinct_spec h
    rw [hset, Cell.position_set]
  | requireRegion d s => rw [(holds_of_judge h).1]
  | ensure c =>
    obtain ⟨b', st₁, hforce, h⟩ := Turn.bind_eq_ok.1 h
    rw [(holds_of_judge h).1, (Condition.force_spec (.not c) hforce).2.position]
  | «break» c =>
    obtain ⟨b', st₁, hforce, h⟩ := Turn.bind_eq_ok.1 h
    rw [(holds_of_judge h).1, (Condition.force_spec c hforce).2.position]

end CellAction

namespace NeighborAction
variable {details : Details} {size : Int} {cell : Cell}

private theorem meets_setComparing (wanted : Bool) (c : ComparisonSpec) (k : String) (st : Cell × Luck) :
    Turn.Meets (setComparing wanted c k cell details size) st (fun _ _ => True) fun _ st' => st'.1 = st.1 := by
  refine .bind_subject (.bind_ofExcept (fun _ _ => .bind_ofExcept (fun _ _ => ?_) fun _ _ => rfl) fun _ _ => rfl)
  refine .bind (Q := fun _ _ => True) (.bind_ofExcept (fun values _ => ?_) fun _ _ => rfl) fun v _ _ => ?_
  · split
    · exact .pure trivial
    · split
      · exact .pure trivial
      · exact .bind (Q := fun _ _ => True) (meets_pick (fun _ _ _ _ => trivial) fun _ => rfl) fun _ _ _ =>
          .pure trivial
  · cases v with
    | none => exact .pure trivial
    | some v => exact .bind_become (.pure trivial)

/-- All that can fail comes before the neighbor is written. -/
theorem apply_error {a : NeighborAction} {st st' : Cell × Luck} {e : Fault}
    (h : (a.apply cell details size) st = .error e st') : st'.1 = st.1 := by
  have hmeets : Turn.Meets (a.apply cell details size) st (fun _ _ => True) fun _ st' => st'.1 = st.1 := by
    cases a with
    | set p v => exact .bind_subject (.bind_ofExcept (fun _ _ => .bind_become (.pure trivial)) fun _ _ => rfl)
    | setDistinct p k =>
      refine .bind_ofExcept (fun excluded _ => ?_) fun _ _ => rfl
      exact .bind (Q := fun _ _ => True) (meets_pickExcluding (fun _ _ _ => trivial) fun _ => rfl) fun _ _ _ =>
        .bind_subject (.bind_become (.pure trivial))
    | ensureNumber c k => exact meets_setComparing true c k st
    | breakNumber c k => exact meets_setComparing false c k st
  exact hmeets.error h

end NeighborAction

variable {details : Details} {st₀ st : Grid × Luck}

/-- A cell that was forced aside stands where the cell stood and meets the antecedent. -/
theorem meets_forcedAside {antecedent : Option Condition} {size : Int} {cell : Cell} (hst : Unmoved st₀ st) :
    Turn.Meets (forcedAside antecedent details size cell) st
      (fun x st' => Unmoved st₀ st' ∧ ∀ forced, x = some forced → forced.position = cell.position ∧
        Condition.evaluate? (forced.context details size) antecedent = .ok true)
      fun _ st' => st'.1 = st₀.1 := by
  refine .bind_aside ?_ fun _ _ => hst.1
  intro done forced luck hrun
  have hspec : luck.warnings = st.2.warnings ∧ (done = true → forced.position = cell.position ∧
      Condition.evaluate? (forced.context details size) antecedent = .ok true) := by
    cases antecedent with
    | none =>
      obtain ⟨-, h⟩ := Turn.pure_eq_ok.1 hrun
      cases h
      exact ⟨rfl, fun _ => ⟨rfl, rfl⟩⟩
    | some c =>
      obtain ⟨heval, hrefilled⟩ := Condition.force_spec c hrun
      refine ⟨(Condition.silent_force details size c).warnings_eq hrun, ?_⟩
      rintro rfl
      exact ⟨hrefilled.position, heval⟩
  have hst' : Unmoved st₀ (st.1, luck) := hst.trans ⟨rfl, hspec.1⟩
  cases done with
  | false => exact .pure ⟨hst', nofun⟩
  | true =>
    refine .pure ⟨hst', ?_⟩
    rintro _ ⟨⟩
    exact hspec.2 rfl

end ShapePuzzle
