import ShapePuzzle.Proofs.ForcingSucceeds
import ShapePuzzle.Rule.Violation

/-!
# Actions that cannot go wrong

On cells with values of the domains a tame action returns quietly, leaves such a cell where it was, and its
postcondition has a value. An antecedent that an action makes false can be broken.
-/
namespace ShapePuzzle

/-- A cell that stayed in its place and has values of the domains. -/
def Cell.Kept (c c' : Cell) : Prop := c'.Ordinary ∧ c'.position = c.position

theorem Cell.Ordinary.kept_set {c : Cell} (hc : c.Ordinary) {p : Property} {v : Value} (hv : v ∈ p.domain) :
    c.Kept (c.set p v) :=
  ⟨hc.set hv, Cell.position_set c p v⟩

theorem Cell.Ordinary.kept_of_refilled {c c' : Cell} {P : Property → Prop} (hc : c.Ordinary) (h : c.Refilled P c') :
    c.Kept c' :=
  ⟨h.ordinary hc, h.position⟩

theorem Cell.Kept.trans {c c' c'' : Cell} (h : c.Kept c') (h' : c'.Kept c'') : c.Kept c'' :=
  ⟨h'.1, h'.2.trans h.2⟩

variable {details : Details} {size : Int} {cell : Cell}

private theorem Condition.quiet_force_kept {c : Condition} (hc : c.Tame details size) (hcell : cell.Ordinary) :
    Turn.Quiet (c.force details size) cell fun b cell' => cell.Kept cell' ∧
      c.evaluate (cell'.context details size) = .ok b ∧ (c.Takes details size cell → b = true) :=
  (quiet_force hc hcell).mono fun _ _ h => ⟨hcell.kept_of_refilled h.2.2.1, h.2.1, h.2.2.2⟩

theorem quiet_pickDistinct {p : Property} {excluded : Value} {σ : Type} {s : σ} {Q : Value → σ → Prop}
    (h : ∀ v ∈ p.domain, v.isIn [excluded] = false → Q v s) : Turn.Quiet (pickDistinct p excluded) s Q :=
  quiet_pickExcluding p.domain_ne_nil fun v hv hother => h v hv (hother (p.exists_other excluded))

namespace CellAction

/-- The action gives only values of the domains, and what it has to evaluate has a value. -/
def Tame (details : Details) (size : Int) : CellAction → Prop
  | set p v => ∀ cell : Cell, cell.Ordinary → ∃ w ∈ p.domain, v.resolve (cell.context details size) = .ok w
  | setDistinct p k => ∃ w ∈ p.domain, details.lookup k = some w
  | requireRegion d s => ∀ cell : Cell, ∃ b, inRegion d s cell details size = .ok b
  | ensure c | .break c => c.Tame details size

/-- The action never needs a break. -/
def Sure (details : Details) (size : Int) (a : CellAction) : Prop :=
  ∀ {cell cell' : Cell} {luck luck' : Luck} {status : Status}, cell.Ordinary →
    (a.apply details size) (cell, luck) = .ok status (cell', luck') → status = .applied

variable {a : CellAction}

theorem quiet_apply (ha : a.Tame details size) (hcell : cell.Ordinary) :
    Turn.Quiet (a.apply details size) cell fun _ cell' => cell.Kept cell' := by
  cases a with
  | set p v =>
    obtain ⟨w, hw, hv⟩ := ha cell hcell
    exact .bind_subject (.bind_ofExcept hv (.bind_become (.pure (hcell.kept_set hw))))
  | setDistinct p k =>
    obtain ⟨w, hw, hk⟩ := ha
    refine .bind_ofExcept (Details.find_eq_ok.2 hk) ?_
    refine .bind (Q := fun v cell' => v ∈ p.domain ∧ cell' = cell) (quiet_pickDistinct fun v hv _ => ⟨hv, rfl⟩) ?_
    rintro v cell' ⟨hv, rfl⟩
    exact .bind_subject (.bind_become (.pure (hcell.kept_set hv)))
  | requireRegion d s =>
    obtain ⟨b, hb⟩ := ha cell
    exact .bind_subject (.bind_ofExcept hb (.pure ⟨hcell, rfl⟩))
  | ensure c => exact .bind (Condition.quiet_force_kept ha hcell) fun _ _ h => .pure h.1
  | «break» c =>
    have hc : (Condition.not c).Tame details size := ha
    exact .bind (Condition.quiet_force_kept hc hcell) fun _ _ h => .pure h.1

theorem exists_holds (ha : a.Tame details size) (hcell : cell.Ordinary) :
    ∃ b, a.holds details size cell = .ok b := by
  cases a with
  | set p v =>
    obtain ⟨w, -, hv⟩ := ha cell hcell
    exact ⟨_, by simp only [holds, hv]; rfl⟩
  | setDistinct p k =>
    obtain ⟨w, -, hk⟩ := ha
    exact ⟨_, by simp only [holds, Details.find_eq_ok.2 hk]; rfl⟩
  | requireRegion d s => exact ha cell
  | ensure c => exact Condition.Tame.settles c ha cell hcell
  | «break» c =>
    obtain ⟨b, hb⟩ := Condition.Tame.settles c ha cell hcell
    exact ⟨_, by simp only [holds, hb]; rfl⟩

theorem quiet_refute (ha : a.Tame details size) (hcell : cell.Ordinary) :
    Turn.Quiet (a.refute details size) cell fun _ cell' => cell.Kept cell' := by
  have hfinish : ∀ {cell' : Cell}, cell.Kept cell' →
      Turn.Quiet (do return !(← Turn.ofExcept (a.holds details size (← Turn.subject)))) cell'
        fun _ cell'' => cell.Kept cell'' := by
    intro cell' hkept
    obtain ⟨b, hb⟩ := exists_holds ha hkept.1
    exact .bind_subject (.bind_ofExcept hb (.pure hkept))
  cases a with
  | set p v =>
    obtain ⟨w, hw, hv⟩ := ha cell hcell
    refine .bind_subject (.bind_ofExcept hv ?_)
    refine .bind (Q := fun v cell' => v ∈ p.domain ∧ cell' = cell) (quiet_pickDistinct fun v hv _ => ⟨hv, rfl⟩) ?_
    rintro other cell' ⟨hother, rfl⟩
    exact .bind_subject (.bind_become (hfinish (hcell.kept_set hother)))
  | setDistinct p k =>
    obtain ⟨w, hw, hk⟩ := ha
    refine .bind_ofExcept (Details.find_eq_ok.2 hk) ?_
    exact .bind_subject (.bind_become (hfinish (hcell.kept_set hw)))
  | requireRegion d s => exact hfinish ⟨hcell, rfl⟩
  | ensure c =>
    have hc : (Condition.not c).Tame details size := ha
    exact .bind (Condition.quiet_force_kept hc hcell) fun _ _ h => hfinish h.1
  | «break» c => exact .bind (Condition.quiet_force_kept ha hcell) fun _ _ h => hfinish h.1

end CellAction

/-- There is an action that makes the antecedent false. -/
def Breakable (details : Details) (size : Int) (antecedent : Option Condition) (action : Option CellAction) : Prop :=
  ∃ a, action = some a ∧ a.Tame details size ∧
    ∀ {cell cell' : Cell} {luck luck' : Luck} {status : Status}, cell.Ordinary →
      (a.apply details size) (cell, luck) = .ok status (cell', luck') →
      Condition.evaluate? (cell'.context details size) antecedent = .ok false

theorem quiet_breakAntecedent {antecedent : Option Condition} {action : Option CellAction}
    (h : Breakable details size antecedent action) (hcell : cell.Ordinary) :
    Turn.Quiet (breakAntecedent antecedent action details size) cell fun _ cell' => cell.Kept cell' := by
  obtain ⟨a, rfl, ha, hbroken⟩ := h
  refine .bind ((CellAction.quiet_apply ha hcell).and_run (P := fun _ cell' =>
    Condition.evaluate? (cell'.context details size) antecedent = .ok false) fun hrun _ => hbroken hcell hrun) ?_
  rintro status cell' ⟨hkept, hfalse⟩
  exact .bind_subject (.bind_ofExcept hfalse (.pure hkept))

/-- An antecedent that has a value on all cells with values of the domains, and so do its parts. -/
def Condition.Tame? (details : Details) (size : Int) (antecedent : Option Condition) : Prop :=
  ∀ c, antecedent = some c → c.Tame details size

/-- Forcing the antecedent always says that it came to hold. -/
def Condition.Takes? (details : Details) (size : Int) (antecedent : Option Condition) (cell : Cell) : Prop :=
  ∀ c, antecedent = some c → c.Takes details size cell

theorem Condition.Tame?.exists_evaluate {antecedent : Option Condition} (h : Tame? details size antecedent)
    (hcell : cell.Ordinary) : ∃ b, evaluate? (cell.context details size) antecedent = .ok b := by
  cases antecedent with
  | none => exact ⟨true, rfl⟩
  | some c => exact Tame.settles c (h c rfl) cell hcell

/-- The cell that comes of forcing an antecedent aside meets the antecedent. -/
theorem quiet_forcedAside {antecedent : Option Condition} (h : Condition.Tame? details size antecedent)
    (hcell : cell.Ordinary) {g : Grid} :
    Turn.Quiet (forcedAside antecedent details size cell) g fun forced g' => g' = g ∧
      (Condition.Takes? details size antecedent cell → forced ≠ none) ∧
      ∀ c, forced = some c → cell.Kept c ∧ Condition.evaluate? (c.context details size) antecedent = .ok true := by
  have hforce : Turn.Quiet (Condition.force? details size antecedent) cell fun b cell' => cell.Kept cell' ∧
      Condition.evaluate? (cell'.context details size) antecedent = .ok b ∧
      (Condition.Takes? details size antecedent cell → b = true) := by
    cases antecedent with
    | none => exact .pure ⟨⟨hcell, rfl⟩, rfl, fun _ => rfl⟩
    | some c =>
      refine (Condition.quiet_force_kept (h c rfl) hcell).mono fun b cell' hb => ⟨hb.1, hb.2.1, fun ht => hb.2.2 ?_⟩
      exact ht c rfl
  refine .bind (.aside (Q := fun p g' => g' = g ∧ cell.Kept p.2 ∧
    Condition.evaluate? (p.2.context details size) antecedent = .ok p.1 ∧
    (Condition.Takes? details size antecedent cell → p.1 = true)) (hforce.mono fun _ _ hb => ⟨rfl, hb⟩)) ?_
  rintro ⟨b, forced⟩ g' ⟨rfl, hkept, he, htakes⟩
  cases b with
  | true => exact .pure ⟨rfl, by simp, fun c hc => by cases hc; exact ⟨hkept, he⟩⟩
  | false => exact .pure ⟨rfl, fun ht => absurd (htakes ht) (by simp), by simp⟩

end ShapePuzzle
