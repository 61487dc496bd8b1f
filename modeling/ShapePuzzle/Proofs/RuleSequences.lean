import ShapePuzzle.Proofs.ImplicationEnforcement
import ShapePuzzle.Proofs.PlainValues
import ShapePuzzle.Proofs.RequirementEnforcement
import ShapePuzzle.Proofs.TurnOutcomes

/-!
# Implications enforced one after the other

Each implication has one pass over the grid. What a pass has settled stays settled if no later pass writes what
the implication looks at; a pass writes what its actions write and, if one of them needed a break, what breaking
its antecedent writes.
-/
namespace ShapePuzzle

namespace Grid
variable {P : Property → Prop} {g g' g'' : Grid}

/-- Cell by cell, two grids have the same values of some properties. -/
def AgreeOn (P : Property → Prop) (g g' : Grid) : Prop :=
  g'.size = g.size ∧
    ∀ (k : Nat) (cell' : Cell), g'.cells[k]? = some cell' → ∃ cell, g.cells[k]? = some cell ∧ cell.AgreeOn P cell'

theorem AgreeOn.refl (P : Property → Prop) (g : Grid) : AgreeOn P g g :=
  ⟨rfl, fun _ cell hcell => ⟨cell, hcell, .refl P cell⟩⟩

theorem AgreeOn.trans (h : AgreeOn P g g') (h' : AgreeOn P g' g'') : AgreeOn P g g'' := by
  refine ⟨h'.1.trans h.1, fun k cell'' hcell'' => ?_⟩
  obtain ⟨cell', hcell', hagree'⟩ := h'.2 k cell'' hcell''
  obtain ⟨cell, hcell, hagree⟩ := h.2 k cell' hcell'
  exact ⟨cell, hcell, hagree.trans hagree'⟩

end Grid

namespace Implication
variable {r : Implication} {details : Details} {size : Int} {P : Property → Prop}

/-- Carries out the actions in turn and says whether one of them needed the antecedent broken. -/
def needsBreak (details : Details) (size : Int) : List CellAction → Turn Cell Bool
  | [] => return false
  | a :: rest => do
    match ← a.apply details size with
    | .applied => needsBreak details size rest
    | .needsBreak => return true

/-- In its turn the cell meets the antecedent and an action needs a break. -/
def Breaks (r : Implication) (details : Details) (size : Int) (st : Cell × Luck) : Prop :=
  Condition.evaluate? (st.1.context details size) r.antecedent = .ok true ∧
    ∃ st', (needsBreak details size r.actions) st = .ok true st'

/-- In a pass that starts here some action needs a break. -/
def BreaksIn (r : Implication) (details : Details) (st : Grid × Luck) : Prop :=
  ∃ k st' cell, ((Rule.implication r).enforceFrom details (List.range k)) st = .ok () st' ∧
    st'.1.cells[k]? = some cell ∧ r.Breaks details st'.1.size (cell, st'.2)

/-- What a pass that starts here may write. -/
def Writes (r : Implication) (details : Details) (st : Grid × Luck) (p : Property) : Prop :=
  (∃ a ∈ r.actions, a.writes p = true) ∨ r.BreaksIn details st ∧ breakWrites r.antecedent r.breakAntecedent p

/-- What the antecedent and the postconditions of the actions look at. -/
def LooksAt (r : Implication) (p : Property) : Prop :=
  Condition.reads? r.antecedent p = true ∨ ∃ a ∈ r.actions, a.checks p = true

section Cell
variable {st st' : Cell × Luck} {u : Unit}

private theorem runActions_frame {actions : List CellAction}
    (hactions : ∀ a ∈ actions, ∀ p, P p → a.writes p = false)
    (hbreak : (∃ st₁, (needsBreak details size actions) st = .ok true st₁) →
      ∀ p, P p → ¬ breakWrites r.antecedent r.breakAntecedent p)
    (h : (r.runActions details size actions) st = .ok u st') : st.1.AgreeOn P st'.1 := by
  induction actions generalizing st with
  | nil =>
    rw [(Turn.pure_eq_ok.1 h).2]
    exact .refl _ _
  | cons a rest ih =>
    obtain ⟨ha, hrest⟩ := List.forall_mem_cons.1 hactions
    obtain ⟨status, st₁, hrun, h⟩ := Turn.bind_eq_ok.1 h
    have hfirst : st.1.AgreeOn P st₁.1 := (CellAction.apply_frame hrun).mono ha
    cases status with
    | applied =>
      refine hfirst.trans (ih hrest ?_ h)
      rintro ⟨st₂, hneeds⟩
      exact hbreak ⟨st₂, Turn.bind_eq_ok.2 ⟨_, st₁, hrun, hneeds⟩⟩
    | needsBreak =>
      have hfree := hbreak ⟨st₁, Turn.bind_eq_ok.2 ⟨_, st₁, hrun, rfl⟩⟩
      exact hfirst.trans ((breakAntecedent_spec h).1.mono hfree)

/-- A turn changes nothing but what the actions write and, if one needs a break, what breaking writes. -/
theorem enforceCell_frame (hactions : ∀ a ∈ r.actions, ∀ p, P p → a.writes p = false)
    (hbreak : r.Breaks details size st → ∀ p, P p → ¬ breakWrites r.antecedent r.breakAntecedent p)
    (h : (r.enforceCell details size) st = .ok u st') : st.1.AgreeOn P st'.1 := by
  rcases enforceCell_cases h with ⟨-, rfl⟩ | ⟨he, h⟩
  · exact .refl _ _
  · exact runActions_frame hactions (fun hneeds => hbreak ⟨he, hneeds⟩) h

/-- The rule sets no value that differs from itself. -/
structure Regular (r : Implication) (details : Details) : Prop where
  actions : ∀ a ∈ r.actions, a.Regular details
  breakAntecedent : ∀ a, r.breakAntecedent = some a → a.Regular details

private theorem regular_of_runActions {actions : List CellAction} (hactions : ∀ a ∈ actions, a.Regular details)
    (hbreak : ∀ a, r.breakAntecedent = some a → a.Regular details) (hcell : st.1.Regular)
    (h : (r.runActions details size actions) st = .ok u st') : st'.1.Regular := by
  induction actions generalizing st with
  | nil =>
    rw [← (Turn.pure_eq_ok.1 h).2]
    exact hcell
  | cons a rest ih =>
    obtain ⟨ha, hrest⟩ := List.forall_mem_cons.1 hactions
    obtain ⟨status, st₁, hrun, h⟩ := Turn.bind_eq_ok.1 h
    have hcell₁ := CellAction.regular_of_apply ha hcell hrun
    cases status with
    | applied => exact ih hrest hcell₁ h
    | needsBreak => exact regular_of_breakAntecedent hbreak hcell₁ h

theorem Regular.cell (hr : r.Regular details) (hcell : st.1.Regular)
    (h : (r.enforceCell details size) st = .ok u st') : st'.1.Regular := by
  rcases enforceCell_cases h with ⟨-, rfl⟩ | ⟨-, h⟩
  · exact hcell
  · exact regular_of_runActions hr.actions hr.breakAntecedent hcell h

/-- No action writes what the antecedent looks at. -/
def Steady (r : Implication) : Prop :=
  ∀ a ∈ r.actions, ∀ p, Condition.reads? r.antecedent p = true → a.writes p = false

private theorem exists_evaluate_of_runActions {actions : List CellAction}
    (hactions : ∀ a ∈ actions, ∀ p, Condition.reads? r.antecedent p = true → a.writes p = false)
    (he : Condition.evaluate? (st.1.context details size) r.antecedent = .ok true)
    (h : (r.runActions details size actions) st = .ok u st') (hquiet : st'.2.warnings = st.2.warnings) :
    ∃ b, Condition.evaluate? (st'.1.context details size) r.antecedent = .ok b := by
  induction actions generalizing st with
  | nil =>
    rw [← (Turn.pure_eq_ok.1 h).2]
    exact ⟨true, he⟩
  | cons a rest ih =>
    obtain ⟨ha, hrest⟩ := List.forall_mem_cons.1 hactions
    obtain ⟨status, st₁, hrun, h⟩ := Turn.bind_eq_ok.1 h
    have hlog := (a.silent_apply details size).warnings_eq hrun
    cases status with
    | applied =>
      have hsame := Condition.evaluate?_context_congr ((CellAction.apply_frame hrun).mono ha) details size
      exact ih hrest (hsame ▸ he) h (hquiet.trans hlog.symm)
    | needsBreak =>
      obtain ⟨-, ⟨-, hfalse⟩ | hwarn⟩ := breakAntecedent_spec h
      · exact ⟨false, hfalse⟩
      · rw [hquiet, hlog] at hwarn
        exact absurd hwarn (by simp)

/-- Unless an action may change what it looks at, the antecedent still has a value after a turn. -/
theorem Steady.exists_evaluate (hr : r.Steady) {cell cell' : Cell} (h : r.Turned details size cell cell') :
    ∃ b, Condition.evaluate? (cell'.context details size) r.antecedent = .ok b := by
  obtain ⟨luck, luck', h, hquiet⟩ := h
  rcases enforceCell_cases h with ⟨he, heq⟩ | ⟨he, h⟩
  · cases heq
    exact ⟨false, he⟩
  · exact exists_evaluate_of_runActions hr he h hquiet

/-- A settled implication holds as soon as its antecedent has a value. -/
theorem Settled.holdsOn_eq_ok_true {cell : Cell} (h : r.Settled details size cell) :
    r.holdsOn details size cell = .ok true ↔
      ∃ b, Condition.evaluate? (cell.context details size) r.antecedent = .ok b := by
  rw [Implication.holdsOn_eq_ok_true]
  constructor
  · rintro (hfalse | ⟨htrue, -⟩)
    · exact ⟨false, hfalse⟩
    · exact ⟨true, htrue⟩
  · rintro ⟨b, hb⟩
    cases b with
    | false => exact .inl hb
    | true =>
      refine .inr ⟨hb, ?_⟩
      rcases h with hall | hfalse
      · exact hall
      · rw [hfalse] at hb
        cases hb

/-- The rule has been carried out on the cell: its actions hold or nothing is asked of it, and if the rule is
steady that can be told. -/
def DoneOn (r : Implication) (details : Details) (size : Int) (cell : Cell) : Prop :=
  r.Settled details size cell ∧
    (r.Steady → ∃ b, Condition.evaluate? (cell.context details size) r.antecedent = .ok b)

theorem DoneOn.congr {cell cell' : Cell} (h : r.DoneOn details size cell) (hagree : cell.AgreeOn r.LooksAt cell') :
    r.DoneOn details size cell' := by
  have hwhen := Condition.evaluate?_context_congr (hagree.mono fun p hp => .inl hp) details size
  refine ⟨?_, fun hsteady => hwhen ▸ h.2 hsteady⟩
  rcases h.1 with hall | hfalse
  · refine .inl fun a ha => ?_
    rw [← CellAction.holds_congr (hagree.mono fun p hp => .inr ⟨a, ha, hp⟩)]
    exact hall a ha
  · exact .inr (hwhen ▸ hfalse)

end Cell

section Pass
variable {st st' : Grid × Luck} {u : Unit}

private theorem enforceFrom_snoc {ks : List Nat} {k : Nat}
    (h : ((Rule.implication r).enforceFrom details (ks ++ [k])) st = .ok u st') :
    ∃ st₁, ((Rule.implication r).enforceFrom details ks) st = .ok () st₁ ∧
      ((Rule.implication r).enforceAt details k) st₁ = .ok () st' := by
  induction ks generalizing st with
  | nil =>
    obtain ⟨_, st₁, hat, h⟩ := Turn.bind_eq_ok.1 h
    obtain ⟨-, rfl⟩ := Turn.pure_eq_ok.1 h
    exact ⟨st, rfl, hat⟩
  | cons j ks ih =>
    obtain ⟨_, st₁, hfirst, h⟩ := Turn.bind_eq_ok.1 h
    obtain ⟨st₂, hks, hat⟩ := ih h
    exact ⟨st₂, Turn.bind_eq_ok.2 ⟨_, st₁, hfirst, hks⟩, hat⟩

/-- The turn that a pass gives to the cell of an index: the cell is as the pass found it. -/
private def Visit (r : Implication) (details : Details) (st : Grid × Luck) (k : Nat) (cell' : Cell) : Prop :=
  ∃ st₁ cell luck, ((Rule.implication r).enforceFrom details (List.range k)) st = .ok () st₁ ∧
    st₁.1.size = st.1.size ∧ st.1.cells[k]? = some cell ∧ st₁.1.cells[k]? = some cell ∧
    (r.enforceCell details st.1.size) (cell, st₁.2) = .ok () (cell', luck)

private theorem visits_of_enforceFrom {n : Nat}
    (h : ((Rule.implication r).enforceFrom details (List.range n)) st = .ok u st') :
    st'.1.size = st.1.size ∧ (∀ i, n ≤ i → st'.1.cells[i]? = st.1.cells[i]?) ∧
      ∀ i, i < n → ∀ cell', st'.1.cells[i]? = some cell' → r.Visit details st i cell' := by
  induction n generalizing st' with
  | zero =>
    obtain ⟨-, rfl⟩ := Turn.pure_eq_ok.1 h
    exact ⟨rfl, fun _ _ => rfl, fun i hi => absurd hi (Nat.not_lt_zero i)⟩
  | succ n ih =>
    rw [List.range_succ] at h
    obtain ⟨st₁, hfirst, hat⟩ := enforceFrom_snoc h
    obtain ⟨hsize, hafter, hbefore⟩ := ih hfirst
    obtain ⟨_, _, hs, hat⟩ := Turn.bind_eq_ok.1 hat
    obtain ⟨rfl, rfl⟩ := Turn.subject_eq_ok.1 hs
    obtain ⟨x, st₂, hwork, hat⟩ := Turn.bind_eq_ok.1 hat
    obtain ⟨-, rfl⟩ := Turn.pure_eq_ok.1 hat
    rcases Turn.atCell_spec hwork with ⟨hnone, -, rfl⟩ | ⟨cell, u', cell', luck, hcell, hrun, -, rfl⟩
    · refine ⟨hsize, fun i hi => hafter i (by omega), fun i hi c hc => ?_⟩
      have hin : i ≠ n := by
        rintro rfl
        rw [hnone] at hc
        cases hc
      exact hbefore i (by omega) c hc
    · refine ⟨hsize, fun i hi => ?_, fun i hi c hc => ?_⟩
      · rw [Grid.getElem?_put_of_ne (by omega)]
        exact hafter i (by omega)
      · by_cases hin : i = n
        · subst hin
          rw [Grid.getElem?_put_self hcell] at hc
          cases hc
          rw [hsize] at hrun
          exact ⟨st₁, cell, luck, hfirst, hsize, by rw [← hafter i (Nat.le_refl i), hcell], hcell, hrun⟩
        · rw [Grid.getElem?_put_of_ne hin] at hc
          exact hbefore i (by omega) c hc

private theorem visits_of_enforce (h : ((Rule.implication r).enforce details) st = .ok u st') :
    st'.1.size = st.1.size ∧ ∀ k cell', st'.1.cells[k]? = some cell' → r.Visit details st k cell' := by
  obtain ⟨_, _, hs, h⟩ := Turn.bind_eq_ok.1 h
  obtain ⟨rfl, rfl⟩ := Turn.subject_eq_ok.1 hs
  obtain ⟨hsize, hafter, hbefore⟩ := visits_of_enforceFrom h
  refine ⟨hsize, fun k cell' hcell' => ?_⟩
  by_cases hk : k < st.1.cells.length
  · exact hbefore k hk cell' hcell'
  · rw [hafter k (by omega), List.getElem?_eq_none (by omega)] at hcell'
    cases hcell'

/-- A pass changes nothing but what it may write. -/
theorem enforce_frame (hP : ∀ p, r.Writes details st p → ¬ P p)
    (h : ((Rule.implication r).enforce details) st = .ok u st') : st.1.AgreeOn P st'.1 := by
  obtain ⟨hsize, hvisits⟩ := visits_of_enforce h
  refine ⟨hsize, fun k cell' hcell' => ?_⟩
  obtain ⟨st₁, cell, luck, hbefore, hsize₁, hcell, hcell₁, hrun⟩ := hvisits k cell' hcell'
  refine ⟨cell, hcell, enforceCell_frame (fun a ha p hp => Bool.eq_false_iff.2 fun hw => ?_) ?_ hrun⟩
  · exact hP p (.inl ⟨a, ha, hw⟩) hp
  · intro hbreaks p hp hw
    rw [← hsize₁] at hbreaks
    exact hP p (.inr ⟨⟨k, st₁, cell, hbefore, hcell₁, hbreaks⟩, hw⟩) hp

theorem Regular.grid (hr : r.Regular details) (hg : ∀ c ∈ st.1.cells, c.Regular)
    (h : ((Rule.implication r).enforce details) st = .ok u st') : ∀ c ∈ st'.1.cells, c.Regular := by
  intro cell' hcell'
  obtain ⟨k, hk⟩ := List.getElem?_of_mem hcell'
  obtain ⟨st₁, cell, luck, -, -, hcell, -, hrun⟩ := (visits_of_enforce h).2 k cell' hk
  exact hr.cell (hg cell (List.mem_of_getElem? hcell)) hrun

/-- After a pass that logs nothing the rule has been carried out on every cell. -/
theorem doneOn_of_enforce (hr : r.Orderly details) (hg : ∀ c ∈ st.1.cells, c.Regular)
    (h : ((Rule.implication r).enforce details) st = .ok u st') (hquiet : st'.2.warnings = st.2.warnings) :
    ∀ c ∈ st'.1.cells, r.DoneOn details st'.1.size c := by
  intro cell' hcell'
  obtain ⟨k, hk⟩ := List.getElem?_of_mem hcell'
  obtain ⟨hsize, -, hturned⟩ := turned_of_enforce h hquiet
  obtain ⟨cell, hcell, hturn⟩ := hturned k cell' hk
  rw [hsize]
  exact ⟨hr.settled (hg cell (List.mem_of_getElem? hcell)) hturn, fun hsteady => hsteady.exists_evaluate hturn⟩

end Pass

section Sequence
variable {rules : List Implication} {st st' : Grid × Luck}

/-- No rule writes, in its pass, what an earlier one looks at. -/
def Apart (rules : List Implication) (details : Details) (st : Grid × Luck) : Prop :=
  ∀ i j r s st', i < j → rules[i]? = some r → rules[j]? = some s →
    (Rule.enforceAll details ((rules.take j).map .implication)) st = .ok () st' →
    ∀ p, s.Writes details st' p → ¬ r.LooksAt p

/-- Rules that write nothing of some properties leave these as they are. -/
private theorem enforceAll_frame
    (hrules : ∀ j s st₁, rules[j]? = some s →
      (Rule.enforceAll details ((rules.take j).map .implication)) st = .ok () st₁ →
      ∀ p, s.Writes details st₁ p → ¬ P p)
    (h : (Rule.enforceAll details (rules.map .implication)) st = .ok () st') : st.1.AgreeOn P st'.1 := by
  induction rules generalizing st with
  | nil =>
    rw [(Turn.pure_eq_ok.1 h).2]
    exact .refl _ _
  | cons r rest ih =>
    obtain ⟨_, st₁, hfirst, h⟩ := Turn.bind_eq_ok.1 h
    refine (enforce_frame (hrules 0 r st rfl rfl) hfirst).trans (ih (fun j s st₂ hs hrun => ?_) h)
    exact hrules (j + 1) s st₂ hs (Turn.bind_eq_ok.2 ⟨_, st₁, hfirst, hrun⟩)

/-- After all passes every rule has been carried out on every cell. -/
theorem doneOn_of_enforceAll (horderly : ∀ r ∈ rules, r.Orderly details) (hregular : ∀ r ∈ rules, r.Regular details)
    (hapart : Apart rules details st) (hg : ∀ c ∈ st.1.cells, c.Regular)
    (h : (Rule.enforceAll details (rules.map .implication)) st = .ok () st')
    (hquiet : st'.2.warnings = st.2.warnings) : ∀ r ∈ rules, ∀ c ∈ st'.1.cells, r.DoneOn details st'.1.size c := by
  induction rules generalizing st with
  | nil => simp
  | cons r rest ih =>
    obtain ⟨hr, hrest⟩ := List.forall_mem_cons.1 horderly
    obtain ⟨hr', hrest'⟩ := List.forall_mem_cons.1 hregular
    obtain ⟨_, st₁, hfirst, h⟩ := Turn.bind_eq_ok.1 h
    obtain ⟨hquiet₁, hquiet₂⟩ := (Rule.logs_enforce details _).quiet_split (Rule.logs_enforceAll details _) hfirst h
      rfl hquiet
    have hlater : ∀ {j s st₂}, rest[j]? = some s →
        (Rule.enforceAll details ((rest.take j).map .implication)) st₁ = .ok () st₂ →
        (Rule.enforceAll details (((r :: rest).take (j + 1)).map .implication)) st = .ok () st₂ :=
      fun _ hrun => Turn.bind_eq_ok.2 ⟨_, st₁, hfirst, hrun⟩
    refine List.forall_mem_cons.2 ⟨?_, ?_⟩
    · have hframe := enforceAll_frame (P := r.LooksAt)
        (fun j s st₂ hs hrun => hapart 0 (j + 1) r s st₂ (Nat.succ_pos j) rfl hs (hlater hs hrun)) h
      intro c' hc'
      obtain ⟨k, hk⟩ := List.getElem?_of_mem hc'
      obtain ⟨c, hc, hagree⟩ := hframe.2 k c' hk
      rw [hframe.1]
      exact (doneOn_of_enforce hr hg hfirst hquiet₁ c (List.mem_of_getElem? hc)).congr hagree
    · refine ih hrest hrest' (fun i j s t st₂ hij hs ht hrun => ?_) (hr'.grid hg hfirst) h hquiet₂
      exact hapart (i + 1) (j + 1) s t st₂ (Nat.succ_lt_succ hij) hs ht (hlater ht hrun)

end Sequence

/-- Neither an action of the rule nor its break sets a constant that is not plain. -/
structure Plain (r : Implication) : Prop where
  actions : ∀ a ∈ r.actions, a.Plain
  breakAntecedent : ∀ a, r.breakAntecedent = some a → a.Plain

/-- Where no action disturbs an earlier one and no rule an earlier rule, no rule fails after all have been enforced,
unless an antecedent could not be broken. The rules are verified as soon as every antecedent has a value on every
cell, as those of steady rules have. -/
theorem verifyAll_of_enforceAll {rules : List Implication} {g g' : Grid} {luck luck' : Luck}
    (hundisturbed : ∀ r ∈ rules, r.actions.Pairwise fun a b => ∀ p, b.writes p = true → a.checks p = false)
    (hapart : Apart rules details (g, luck)) (hcells : ∀ c ∈ g.cells, c.Plain) (hdetails : details.Plain)
    (hconstants : ∀ r ∈ rules, r.Plain)
    (hrun : (Rule.enforceAll details (rules.map .implication)) (g, luck) = .ok () (g', luck'))
    (hkept : ∀ p, .antecedentKept p ∉ luck.news luck') :
    Rule.verifyAll details g' (rules.map .implication) ≠ .ok false ∧
      (Rule.verifyAll details g' (rules.map .implication) = .ok true ↔
        ∀ r ∈ rules, ∀ c ∈ g'.cells, ∃ b, Condition.evaluate? (c.context details g'.size) r.antecedent = .ok b) ∧
      ((∀ r ∈ rules, r.Steady) → Rule.verifyAll details g' (rules.map .implication) = .ok true) := by
  have hregular : ∀ r ∈ rules, r.Regular details := fun r hr =>
    ⟨fun a ha => ((hconstants r hr).actions a ha).regular hdetails,
      fun a ha => ((hconstants r hr).breakAntecedent a ha).regular hdetails⟩
  have horderly : ∀ r ∈ rules, r.Orderly details := fun r hr => ⟨hundisturbed r hr, (hregular r hr).actions⟩
  have hdone := doneOn_of_enforceAll horderly hregular hapart (fun c hc => (hcells c hc).regular) hrun
    ((Rule.logs_enforceAll details _).warnings_eq hrun (by rintro w ⟨p, rfl⟩; exact hkept p))
  have htrue : Rule.verifyAll details g' (rules.map .implication) = .ok true ↔
      ∀ r ∈ rules, ∀ c ∈ g'.cells, r.holdsOn details g'.size c = .ok true := by
    simp only [Rule.verifyAll, allM_eq_ok_true, List.forall_mem_map, Rule.verify]
  have hiff : Rule.verifyAll details g' (rules.map .implication) = .ok true ↔
      ∀ r ∈ rules, ∀ c ∈ g'.cells, ∃ b, Condition.evaluate? (c.context details g'.size) r.antecedent = .ok b := by
    rw [htrue]
    exact forall₂_congr fun r hr => forall₂_congr fun c hc => (hdone r hr c hc).1.holdsOn_eq_ok_true
  refine ⟨?_, hiff, fun hsteady => hiff.2 fun r hr c hc => (hdone r hr c hc).2 (hsteady r hr)⟩
  intro hfalse
  obtain ⟨rule, hrule, hfails⟩ := exists_of_allM_eq_ok_false hfalse
  obtain ⟨r, hr, rfl⟩ := List.mem_map.1 hrule
  obtain ⟨c, hc, hfails⟩ := exists_of_allM_eq_ok_false hfails
  exact (hdone r hr c hc).1.holdsOn_ne hfails

/-- Every circle is green. -/
def circlesGreen : Implication where
  antecedent := some (.compare .equals (.cellProperty .shape) (.constant (.text "circle")))
  actions := [.set .color (.constant (.text "#7ed957"))]
  breakAntecedent := none
  violation := none

/-- Every one stands in the first column, or it becomes a two. -/
def onesLeft : Implication where
  antecedent := some (.compare .equals (.cellProperty .number) (.number (.int 1)))
  actions := [.requireRegion (.constant (.text "left")) (.number (.int 1))]
  breakAntecedent := some (.set .number (.number (.int 2)))
  violation := none

private theorem apart_circlesGreen_onesLeft (details : Details) (st : Grid × Luck) :
    Apart [circlesGreen, onesLeft] details st := by
  intro i j r s st' hij hr hs _ p hwrites hlooks
  obtain ⟨rfl, rfl⟩ : i = 0 ∧ j = 1 := by
    have hj : j < 2 := (List.getElem?_eq_some_iff.1 hs).1
    omega
  cases hr
  cases hs
  have hp : p = .number := by
    rcases hwrites with ⟨a, ha, hw⟩ | ⟨-, hbreak⟩
    · obtain rfl := List.mem_singleton.1 ha
      cases hw
    · cases p <;> simp [breakWrites, onesLeft, Condition.reads?, Condition.reads, Ref.reads, CellAction.writes] at hbreak ⊢
  subst hp
  simp [LooksAt, circlesGreen, Condition.reads?, Condition.reads, Ref.reads, CellAction.checks] at hlooks

/-- The cells of the second column become twos. -/
theorem verifyAll_of_enforceAll_circles :
    ∃ g' luck', (Rule.enforceAll [] ([circlesGreen, onesLeft].map .implication))
        (Requirement.pairOfRows ("circle", "#ff82a9") ("square", "#ff82a9"), .start fun _ => 0) = .ok () (g', luck') ∧
      luck'.warnings = [] ∧ Rule.verifyAll [] g' ([circlesGreen, onesLeft].map .implication) = .ok true := by
  obtain ⟨_, g', luck', hrun, hluck⟩ := Turn.exists_of_returnsQuietly
    (Rule.enforceAll [] ([circlesGreen, onesLeft].map .implication))
    (Requirement.pairOfRows ("circle", "#ff82a9") ("square", "#ff82a9"), .start fun _ => 0) rfl
  have hcells : ∀ c ∈ (Requirement.pairOfRows ("circle", "#ff82a9") ("square", "#ff82a9")).cells, c.Plain := by
    simp only [Requirement.pairOfRows, List.forall_mem_cons]
    refine ⟨?_, ?_, ?_, ?_, by simp⟩ <;> exact fun p => by cases p <;> exact ⟨rfl, trivial⟩
  refine ⟨g', luck', hrun, hluck,
    (verifyAll_of_enforceAll ?_ (apart_circlesGreen_onesLeft _ _) hcells (fun _ _ h => by cases h) ?_ hrun ?_).2.2 ?_⟩
  · simp [circlesGreen, onesLeft]
  · simp only [List.forall_mem_cons]
    refine ⟨⟨?_, fun _ h => by cases h⟩, ⟨?_, ?_⟩, by simp⟩
    · simp only [circlesGreen, List.forall_mem_singleton]
      exact ⟨rfl, trivial⟩
    · simp only [onesLeft, List.forall_mem_singleton]
      trivial
    · rintro _ ⟨⟩
      rfl
  · simp [Luck.news, hluck]
  · simp only [List.forall_mem_cons]
    refine ⟨?_, ?_, by simp⟩
    · intro a ha p
      obtain rfl := List.mem_singleton.1 ha
      cases p <;> simp [circlesGreen, Condition.reads?, Condition.reads, Ref.reads, CellAction.writes]
    · intro a ha p
      obtain rfl := List.mem_singleton.1 ha
      simp [CellAction.writes]

end Implication
end ShapePuzzle
