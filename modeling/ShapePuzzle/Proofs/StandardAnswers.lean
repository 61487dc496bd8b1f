import ShapePuzzle.Proofs.RandomGrids
import ShapePuzzle.Proofs.TurnRuns
import ShapePuzzle.Session.Service

/-!
# Answers that can be sent

What a session tells of itself can be sent whenever the session can be kept. Its round can be shown if all cells have
values of the domains and no text that is offered has a half in it.
-/
namespace ShapePuzzle

theorem hexDigit_toNat_lt {n : Nat} (h : n < 16) : (hexDigit n).toNat < 128 := by
  have hdigits : ∀ k : Fin 16, (hexDigit k).toNat < 128 := by decide
  exact hdigits ⟨n, h⟩

theorem toNat_lt_of_mem_hexPlaces {width n : Nat} {c : Char} (h : c ∈ hexPlaces width n) : c.toNat < 128 := by
  induction width generalizing n with
  | zero => cases h
  | succ width ih =>
    rcases List.mem_append.1 h with h | h
    · exact ih h
    · obtain rfl := List.mem_singleton.1 h
      exact hexDigit_toNat_lt (Nat.mod_lt _ (by decide))

theorem SessionId.hasHalf_text (id : SessionId) : hasHalf id.text = false := by
  have hplain : ∀ c ∈ id.text.toList, c.toNat < 128 := by
    intro c hc
    simp only [SessionId.text, String.toList_ofList, List.mem_append, List.mem_singleton] at hc
    have hhyphen : '-'.toNat < 128 := by decide
    rcases hc with ((((((((hc | rfl) | hc) | rfl) | hc) | rfl) | hc) | rfl) | hc)
    · exact toNat_lt_of_mem_hexPlaces (List.mem_of_mem_take hc)
    · exact hhyphen
    · exact toNat_lt_of_mem_hexPlaces (List.mem_of_mem_drop (List.mem_of_mem_take hc))
    · exact hhyphen
    · exact toNat_lt_of_mem_hexPlaces (List.mem_of_mem_drop (List.mem_of_mem_take hc))
    · exact hhyphen
    · exact toNat_lt_of_mem_hexPlaces (List.mem_of_mem_drop (List.mem_of_mem_take hc))
    · exact hhyphen
    · exact toNat_lt_of_mem_hexPlaces (List.mem_of_mem_drop hc)
  simp only [hasHalf, List.any_eq_false]
  intro c hc
  have hlt := hplain c hc
  simp [isHalf]
  omega

namespace Session
variable {s : Session}

theorem hasHalf_tier (h : s.isStorable = true) : hasHalf s.tier = false := by
  simp only [isStorable, Bool.and_eq_true, Bool.not_eq_true', Bool.or_eq_false_iff] at h
  exact h.1.1.1

/-- What a session tells of itself can be sent if it can be kept. -/
theorem isStandard_stats (h : s.isStorable = true) : s.stats.isStandard = true := by
  have htier := hasHalf_tier h
  simp only [stats, Value.isStandard, Value.fieldsAreStandard, Value.int, Number.isFinite, s.id.hasHalf_text, htier]
  decide

/-- The statement of a session can be sent if it can be kept. -/
theorem hasHalf_correctStatement (h : s.isStorable = true) : hasHalf (s.correctStatement.getD "") = false := by
  simp only [isStorable, Bool.and_eq_true, Bool.not_eq_true', Bool.or_eq_false_iff] at h
  cases hs : s.correctStatement with
  | none => rfl
  | some text => simpa [hs] using h.1.1.2

/-- The round of the session can be shown to players. -/
def Shown (s : Session) : Prop := ∃ body, s.shownRound = .good body ∧ body.isStandard = true

/-- A cell with values of the domains can be shown. -/
theorem exists_shownCell {c : Cell} (hc : c.Ordinary) : ∃ fs v, c.snapshot = .ok (.object fs) ∧
    shownCell fs = .good v ∧ v.isStandard = true := by
  obtain ⟨shape, hshape, hs⟩ := List.mem_map.1 (hc .shape)
  obtain ⟨color, hcolor, hk⟩ := List.mem_map.1 (hc .color)
  obtain ⟨n, -, hn⟩ := List.mem_map.1 (hc .number)
  obtain ⟨_, _, _, position⟩ := c
  obtain rfl : _ = Value.text shape := hs.symm
  obtain rfl : _ = Value.text color := hk.symm
  obtain rfl : _ = Value.int n := hn.symm
  refine ⟨_, _, rfl, rfl, ?_⟩
  have hshapes : ∀ shape ∈ shapes, hasHalf shape = false := by decide
  have hcolors : ∀ color ∈ colors, hasHalf color = false ∧
      hasHalf ((palette.lookup (lowerCase color)).getD color) = false := by decide +kernel
  have hkeys : ∀ k ∈ ["shape", "color", "color_name", "number", "row", "col"], hasHalf k = false := by decide
  simp only [List.forall_mem_cons] at hkeys
  simp [Value.isStandard, Value.fieldsAreStandard, Number.isFinite, hshapes shape hshape, hcolors color hcolor, hkeys]

private theorem exists_shownCells {cells : List Cell} {items : List Value} (hcells : ∀ c ∈ cells, c.Ordinary)
    (hitems : cells.mapM Cell.snapshot = .ok items) (k : Nat) :
    ∃ shown, Value.asItems (Value.asRecord shownCell) k items = .good shown ∧
      Value.itemsAreStandard shown = true := by
  induction cells generalizing k items with
  | nil =>
    cases hitems
    exact ⟨[], rfl, rfl⟩
  | cons c cells ih =>
    obtain ⟨hc, hrest⟩ := List.forall_mem_cons.1 hcells
    obtain ⟨fs, v, hfs, hv, hstandard⟩ := exists_shownCell hc
    rw [List.mapM_cons, hfs] at hitems
    obtain ⟨_, ⟨⟩, hitems⟩ := except_bind_eq_ok.1 hitems
    obtain ⟨rest, hcells, ⟨⟩⟩ := except_bind_eq_ok.1 hitems
    obtain ⟨shown, hshown, hall⟩ := ih hrest hcells (k + 1)
    refine ⟨v :: shown, ?_, by simp [Value.itemsAreStandard, hstandard, hall]⟩
    simp only [Value.asItems, Value.asRecord, hv, hshown]
    rfl

private theorem isStandard_shownOptions {options : List AnswerOption}
    (h : ∀ o ∈ options, hasHalf o.text = false ∧ hasHalf o.formal = false) :
    Value.itemsAreStandard (options.map shownOption) = true := by
  induction options with
  | nil => rfl
  | cons o options ih =>
    obtain ⟨ho, hrest⟩ := List.forall_mem_cons.1 h
    have hkeys : hasHalf "text" = false ∧ hasHalf "formal_statement" = false := by decide
    have hfirst : (shownOption o).isStandard = true := by
      simp [shownOption, Value.isStandard, Value.fieldsAreStandard, ho, hkeys]
    rw [List.map_cons, Value.itemsAreStandard, hfirst, ih hrest]
    rfl

/-- Cells outside the domains and texts with halves are all that keeps a round from being shown. -/
theorem shown_startRound {r : Round} {grid : List Value} (hs : (s.startRound r grid).isStorable = true)
    (hgrid : r.grid.snapshot = .ok grid) (hcells : r.grid.Ordinary)
    (htexts : ∀ o ∈ r.options, hasHalf o.text = false ∧ hasHalf o.formal = false) : (s.startRound r grid).Shown := by
  obtain ⟨shown, hshown, hstandard⟩ := exists_shownCells hcells hgrid 0
  refine ⟨_, by simp only [shownRound, startRound, Option.getD_some, Value.asList, hshown]; rfl, ?_⟩
  have htier : hasHalf r.tier = false := hasHalf_tier hs
  have hoptions : Value.itemsAreStandard
      ((r.options.map fun o => (⟨o.text, o.formal⟩ : AnswerOption)).map shownOption) = true :=
    isStandard_shownOptions (by simpa using htexts)
  simp only [Value.isStandard, Value.fieldsAreStandard, s.id.hasHalf_text, htier, hstandard, hoptions,
    Number.isFinite]
  decide

end Session

end ShapePuzzle
