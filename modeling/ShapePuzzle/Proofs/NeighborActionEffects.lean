import ShapePuzzle.Proofs.ConditionReads
import ShapePuzzle.Proofs.Draws
import ShapePuzzle.Rule.Enforcement

/-!
# What actions on a neighbor do

An action on the neighbor changes no other property of it than the one it writes, moves nothing and logs
nothing, and so do the actions of a requirement one after the other.
-/
namespace ShapePuzzle

namespace Turn
variable {α : Type} {st st' : Grid × Luck}

/-- Work on a cell is kept at its place; without such a cell nothing happens. -/
theorem atCell_spec {k : Nat} {work : Turn Cell α} {result : Option α}
    (h : (atCell k work) st = .ok result st') :
    st.1.cells[k]? = none ∧ result = none ∧ st' = st ∨
      ∃ cell a cell' luck, st.1.cells[k]? = some cell ∧ work (cell, st.2) = .ok a (cell', luck) ∧
        result = some a ∧ st' = (st.1.put k cell', luck) := by
  obtain ⟨g, st₁, hs, h⟩ := bind_eq_ok.1 h
  obtain ⟨rfl, rfl⟩ := subject_eq_ok.1 hs
  cases hcell : st.1.cells[k]? with
  | none =>
    rw [hcell] at h
    obtain ⟨rfl, rfl⟩ := pure_eq_ok.1 h
    exact .inl ⟨rfl, rfl, rfl⟩
  | some cell =>
    rw [hcell] at h
    obtain ⟨a, st₂, hwork, h⟩ := bind_eq_ok.1 h
    obtain ⟨rfl, rfl⟩ := pure_eq_ok.1 h
    obtain ⟨cell', luck, hrun, rfl⟩ := within_eq_ok.1 hwork
    exact .inr ⟨cell, a, cell', luck, rfl, hrun, rfl, rfl⟩

theorem Logs.atCell {W : Warning → Prop} (k : Nat) {work : Turn Cell α} (h : Logs W work) :
    Logs W (Turn.atCell k work) := by
  refine .bind .subject fun g => ?_
  split
  · exact .pure _
  · exact .bind (.within h) fun _ => .pure _

end Turn

namespace NeighborAction

/-- Whether carrying out the action may change a property of the neighbor. -/
def writes : NeighborAction → Property → Bool
  | set p _, q | setDistinct p _, q => p = q
  | ensureNumber _ _, q | breakNumber _ _, q => Property.number = q

variable {cell : Cell} {details : Details} {size : Int} {st st' : Cell × Luck} {status : Status}

private theorem silent_pickComparing (wanted : Bool) (c : Comparison) (threshold current : Value) {σ : Type} :
    Turn.Silent (pickComparing wanted c threshold current : Turn σ (Option Value)) := by
  refine .bind (.ofExcept _) fun values => ?_
  split
  · exact .pure _
  · split
    · exact .pure _
    · exact .bind (silent_pick _) fun _ => .pure _

theorem silent_apply (a : NeighborAction) (cell : Cell) (details : Details) (size : Int) :
    Turn.Silent (a.apply cell details size) := by
  have hcomparing : ∀ (wanted : Bool) (c : ComparisonSpec) (k : String),
      Turn.Silent (setComparing wanted c k cell details size) := by
    intro wanted c k
    refine .bind .subject fun neighbor => .bind (.ofExcept _) fun comparison => .bind (.ofExcept _) fun threshold =>
      .bind (silent_pickComparing _ _ _ _) fun v => ?_
    cases v with
    | none => exact .pure _
    | some v => exact .bind (.become _) fun _ => .pure _
  cases a with
  | set p v => exact .bind .subject fun _ => .bind (.ofExcept _) fun _ => .bind (.become _) fun _ => .pure _
  | setDistinct p k =>
    exact .bind (.ofExcept _) fun _ => .bind (silent_pickExcluding _ _) fun _ =>
      .bind .subject fun _ => .bind (.become _) fun _ => .pure _
  | ensureNumber c k => exact hcomparing true c k
  | breakNumber c k => exact hcomparing false c k

private theorem pickComparing_subject {wanted : Bool} {c : Comparison} {threshold current : Value}
    {v : Option Value} (h : (pickComparing wanted c threshold current : Turn Cell _) st = .ok v st') :
    st'.1 = st.1 := by
  obtain ⟨values, st₁, hvalues, h⟩ := Turn.bind_eq_ok.1 h
  obtain ⟨-, rfl⟩ := Turn.ofExcept_eq_ok.1 hvalues
  split at h
  · obtain ⟨-, rfl⟩ := Turn.pure_eq_ok.1 h
    rfl
  · split at h
    · obtain ⟨-, rfl⟩ := Turn.pure_eq_ok.1 h
      rfl
    · obtain ⟨w, st₂, hpick, h⟩ := Turn.bind_eq_ok.1 h
      obtain ⟨-, rfl⟩ := Turn.pure_eq_ok.1 h
      exact (pick_spec hpick).2

private theorem setComparing_frame {wanted : Bool} {c : ComparisonSpec} {k : String}
    (h : (setComparing wanted c k cell details size) st = .ok status st') :
    st.1.AgreeOn (fun p => p ≠ .number) st'.1 := by
  simp only [setComparing, Turn.bind_eq_ok, Turn.subject_eq_ok, Turn.ofExcept_eq_ok] at h
  obtain ⟨neighbor, _, ⟨rfl, rfl⟩, comparison, _, ⟨-, rfl⟩, threshold, _, ⟨-, rfl⟩, v, st₁, hv, h⟩ := h
  have hsubject := pickComparing_subject hv
  cases v with
  | none =>
    obtain ⟨-, rfl⟩ := Turn.pure_eq_ok.1 h
    rw [hsubject]
    exact .refl _ _
  | some v =>
    obtain ⟨_, st₂, hbecome, h⟩ := Turn.bind_eq_ok.1 h
    obtain ⟨-, rfl⟩ := Turn.pure_eq_ok.1 h
    rw [← Turn.become_eq_ok.1 hbecome]
    exact Cell.agreeOn_set (by simp) _ _

theorem apply_frame {a : NeighborAction} (h : (a.apply cell details size) st = .ok status st') :
    st.1.AgreeOn (fun p => a.writes p = false) st'.1 := by
  cases a with
  | set p v =>
    simp only [apply, Turn.bind_eq_ok, Turn.subject_eq_ok, Turn.ofExcept_eq_ok, Turn.become_eq_ok,
      Turn.pure_eq_ok] at h
    obtain ⟨neighbor, _, ⟨rfl, rfl⟩, w, _, ⟨-, rfl⟩, _, _, rfl, -, rfl⟩ := h
    exact Cell.agreeOn_set (by simp [writes]) _ _
  | setDistinct p k =>
    simp only [apply, Turn.bind_eq_ok, Turn.subject_eq_ok, Turn.ofExcept_eq_ok, Turn.become_eq_ok,
      Turn.pure_eq_ok] at h
    obtain ⟨w, _, ⟨-, rfl⟩, v, st₁, hv, neighbor, _, ⟨rfl, rfl⟩, _, _, rfl, -, rfl⟩ := h
    rw [← (pickExcluding_spec hv).2.1]
    exact Cell.agreeOn_set (by simp [writes]) _ _
  | ensureNumber c k => exact (setComparing_frame h).mono fun p hp => by simpa [writes, eq_comm] using hp
  | breakNumber c k => exact (setComparing_frame h).mono fun p hp => by simpa [writes, eq_comm] using hp

end NeighborAction

namespace Requirement
variable {cell : Cell} {details : Details} {size : Int} {st st' : Cell × Luck}

theorem silent_satisfyNeighbor (cell : Cell) (details : Details) (size : Int) (actions : List NeighborAction) :
    Turn.Silent (satisfyNeighbor cell details size actions) := by
  induction actions with
  | nil => exact .pure _
  | cons a rest ih =>
    exact .bind (a.silent_apply cell details size) fun _ => .bind ih fun _ => .pure _

theorem satisfyNeighbor_frame {actions : List NeighborAction} {done : Bool}
    (h : (satisfyNeighbor cell details size actions) st = .ok done st') :
    st.1.AgreeOn (fun p => ∀ a ∈ actions, a.writes p = false) st'.1 := by
  induction actions generalizing st done with
  | nil =>
    obtain ⟨-, rfl⟩ := Turn.pure_eq_ok.1 h
    exact .refl _ _
  | cons a rest ih =>
    obtain ⟨status, st₁, ha, h⟩ := Turn.bind_eq_ok.1 h
    obtain ⟨others, st₂, hrest, h⟩ := Turn.bind_eq_ok.1 h
    obtain ⟨-, rfl⟩ := Turn.pure_eq_ok.1 h
    have hfirst := (NeighborAction.apply_frame ha).mono fun p (hp : ∀ b ∈ a :: rest, b.writes p = false) =>
      hp a List.mem_cons_self
    exact hfirst.trans ((ih hrest).mono fun p hp b hb => hp b (List.mem_cons_of_mem a hb))

end Requirement
end ShapePuzzle
