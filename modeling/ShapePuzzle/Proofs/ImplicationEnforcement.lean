import ShapePuzzle.Proofs.EnforcementLog
import ShapePuzzle.Proofs.NeighborPlaces

/-!
# Enforcing an implication

Every cell has one turn, which no other turn touches. If no action spoils what an earlier one has set up, a
turn that logs nothing leaves all actions holding or the antecedent false.
-/
namespace ShapePuzzle.Implication
variable {r : Implication} {details : Details} {size : Int} {g g' : Grid} {cell cell' : Cell}
  {st st' : Cell × Luck}

/-- No action writes what the postcondition of an earlier one looks at, and none sets a value that differs from
itself. -/
structure Orderly (r : Implication) (details : Details) : Prop where
  undisturbed : r.actions.Pairwise fun a b => ∀ p, b.writes p = true → a.checks p = false
  regular : ∀ a ∈ r.actions, a.Regular details

/-- All actions hold on the cell, or nothing is asked of it. -/
def Settled (r : Implication) (details : Details) (size : Int) (cell : Cell) : Prop :=
  (∀ a ∈ r.actions, a.holds details size cell = .ok true) ∨
    Condition.evaluate? (cell.context details size) r.antecedent = .ok false

theorem holdsOn_eq_ok_true :
    r.holdsOn details size cell = .ok true ↔
      Condition.evaluate? (cell.context details size) r.antecedent = .ok false ∨
        Condition.evaluate? (cell.context details size) r.antecedent = .ok true ∧
          ∀ a ∈ r.actions, a.holds details size cell = .ok true := by
  simp only [holdsOn, except_bind_eq_ok]
  constructor
  · rintro ⟨b, hb, h⟩
    cases b with
    | false => exact .inl hb
    | true => exact .inr ⟨hb, allM_eq_ok_true.1 h⟩
  · rintro (hb | ⟨hb, h⟩)
    · exact ⟨false, hb, rfl⟩
    · exact ⟨true, hb, allM_eq_ok_true.2 h⟩

theorem Settled.holdsOn_ne (h : r.Settled details size cell) : r.holdsOn details size cell ≠ .ok false := by
  intro hfalse
  simp only [holdsOn, except_bind_eq_ok] at hfalse
  obtain ⟨b, hb, hrest⟩ := hfalse
  cases b with
  | false => cases hrest
  | true =>
    rcases h with hall | hno
    · rw [if_pos rfl, allM_eq_ok_true.2 hall] at hrest
      cases hrest
    · rw [hno] at hb
      cases hb

/-- What has been set up stays while the rest is carried out. -/
private theorem runActions_spec {done actions : List CellAction} {u : Unit}
    (hdone : ∀ d ∈ done, d.holds details size st.1 = .ok true)
    (hpair : (done ++ actions).Pairwise fun a b => ∀ p, b.writes p = true → a.checks p = false)
    (hregular : ∀ a ∈ actions, a.Regular details) (hcell : st.1.Regular)
    (h : (r.runActions details size actions) st = .ok u st') (hquiet : st'.2.warnings = st.2.warnings) :
    (∀ a ∈ done ++ actions, a.holds details size st'.1 = .ok true) ∨
      Condition.evaluate? (st'.1.context details size) r.antecedent = .ok false := by
  induction actions generalizing st done with
  | nil =>
    obtain ⟨-, rfl⟩ := Turn.pure_eq_ok.1 h
    rw [List.append_nil]
    exact .inl hdone
  | cons a rest ih =>
    obtain ⟨status, st₁, ha, h⟩ := Turn.bind_eq_ok.1 h
    have hlog := (a.silent_apply details size).warnings_eq ha
    have hregular_a := hregular a List.mem_cons_self
    cases status with
    | needsBreak =>
      obtain ⟨-, ⟨-, hfalse⟩ | hwarn⟩ := breakAntecedent_spec h
      · exact .inr hfalse
      · rw [hquiet, hlog] at hwarn
        exact absurd hwarn (by simp)
    | applied =>
      have hholds := CellAction.holds_of_apply hregular_a hcell ha
      have hdone₁ : ∀ d ∈ done ++ [a], d.holds details size st₁.1 = .ok true := by
        intro d hd
        rcases List.mem_append.1 hd with hd | hd
        · have hfree := (List.pairwise_append.1 hpair).2.2 d hd a List.mem_cons_self
          have hagree : st.1.AgreeOn (d.checks ·) st₁.1 := by
            refine (CellAction.apply_frame ha).mono fun p hp => Bool.eq_false_iff.2 fun hw => ?_
            rw [hfree p hw] at hp
            cases hp
          rw [← CellAction.holds_congr hagree]
          exact hdone d hd
        · obtain rfl := List.mem_singleton.1 hd
          simpa using hholds
      have hrest := ih hdone₁ (by rwa [List.append_assoc, List.singleton_append])
        (fun b hb => hregular b (List.mem_cons_of_mem a hb)) (CellAction.regular_of_apply hregular_a hcell ha) h
        (hquiet.trans hlog.symm)
      rwa [List.append_assoc, List.singleton_append] at hrest

/-- In its turn a cell is left alone unless it meets the antecedent. -/
theorem enforceCell_cases {u : Unit} (h : (r.enforceCell details size) st = .ok u st') :
    Condition.evaluate? (st.1.context details size) r.antecedent = .ok false ∧ st' = st ∨
      Condition.evaluate? (st.1.context details size) r.antecedent = .ok true ∧
        (r.runActions details size r.actions) st = .ok u st' := by
  obtain ⟨_, _, hs, h⟩ := Turn.bind_eq_ok.1 h
  obtain ⟨rfl, rfl⟩ := Turn.subject_eq_ok.1 hs
  obtain ⟨b, _, hbrun, h⟩ := Turn.bind_eq_ok.1 h
  obtain ⟨hb, rfl⟩ := Turn.ofExcept_eq_ok.1 hbrun
  cases b with
  | false => exact .inl ⟨hb, (Turn.pure_eq_ok.1 h).2.symm⟩
  | true => exact .inr ⟨hb, h⟩

/-- The cell came out of a turn that logged nothing. -/
def Turned (r : Implication) (details : Details) (size : Int) (cell cell' : Cell) : Prop :=
  ∃ luck luck', (r.enforceCell details size) (cell, luck) = .ok () (cell', luck') ∧
    luck'.warnings = luck.warnings

theorem Orderly.settled (hr : r.Orderly details) (hcell : cell.Regular) (h : r.Turned details size cell cell') :
    r.Settled details size cell' := by
  obtain ⟨luck, luck', h, hquiet⟩ := h
  rcases enforceCell_cases h with ⟨hb, heq⟩ | ⟨-, h⟩
  · cases heq
    exact .inr hb
  · have hnone : ∀ d ∈ ([] : List CellAction), d.holds details size cell = .ok true := by simp
    have hpair := hr.undisturbed
    rw [← List.nil_append r.actions] at hpair
    exact runActions_spec hnone hpair hr.regular hcell h hquiet

private theorem enforceAt_spec {k : Nat} {luck luck' : Luck} {u : Unit}
    (h : ((Rule.implication r).enforceAt details k) (g, luck) = .ok u (g', luck'))
    (hquiet : luck'.warnings = luck.warnings) :
    g.cells[k]? = none ∧ g' = g ∨ ∃ cell cell', g.cells[k]? = some cell ∧ g' = g.put k cell' ∧
      r.Turned details g.size cell cell' := by
  obtain ⟨_, _, hs, h⟩ := Turn.bind_eq_ok.1 h
  obtain ⟨rfl, rfl⟩ := Turn.subject_eq_ok.1 hs
  obtain ⟨x, st, hwork, h⟩ := Turn.bind_eq_ok.1 h
  obtain ⟨-, rfl⟩ := Turn.pure_eq_ok.1 h
  rcases Turn.atCell_spec hwork with ⟨hnone, -, heq⟩ | ⟨cell, u', cell', luck₁, hcell, hrun, -, heq⟩
  · cases heq
    exact .inl ⟨hnone, rfl⟩
  · cases heq
    exact .inr ⟨cell, cell', hcell, rfl, luck, luck', hrun, hquiet⟩

/-- Each cell that a pass comes to has had its turn, and the others are as they were. -/
private theorem enforceFrom_spec {ks : List Nat} (hks : ks.Nodup) {luck luck' : Luck} {u : Unit}
    (h : ((Rule.implication r).enforceFrom details ks) (g, luck) = .ok u (g', luck'))
    (hquiet : luck'.warnings = luck.warnings) :
    g'.size = g.size ∧ g'.cells.length = g.cells.length ∧ ∀ i,
      (i ∉ ks → g'.cells[i]? = g.cells[i]?) ∧
      (i ∈ ks → ∀ cell', g'.cells[i]? = some cell' → ∃ cell, g.cells[i]? = some cell ∧
        r.Turned details g.size cell cell') := by
  induction ks generalizing g luck with
  | nil =>
    obtain ⟨-, h⟩ := Turn.pure_eq_ok.1 h
    cases h
    exact ⟨rfl, rfl, fun i => ⟨fun _ => rfl, fun hi => absurd hi List.not_mem_nil⟩⟩
  | cons k ks ih =>
    obtain ⟨_, ⟨g₁, luck₁⟩, hfirst, hrest⟩ := Turn.bind_eq_ok.1 h
    obtain ⟨hq₁, hq₂⟩ := (Rule.logs_enforceAt details _ k).quiet_split (Rule.logs_enforceFrom details _ ks) hfirst
      hrest rfl hquiet
    obtain ⟨hk, hks⟩ := List.nodup_cons.1 hks
    obtain ⟨hsize, hlength, hall⟩ := ih hks hrest hq₂
    rcases enforceAt_spec hfirst hq₁ with ⟨hnone, rfl⟩ | ⟨cell, cell', hcell, rfl, hturned⟩
    · refine ⟨hsize, hlength, fun i => ⟨fun hi => (hall i).1 fun h => hi (List.mem_cons_of_mem k h), ?_⟩⟩
      intro hi c hc
      rcases List.mem_cons.1 hi with rfl | hi
      · rw [(hall i).1 hk, hnone] at hc
        cases hc
      · exact (hall i).2 hi c hc
    · refine ⟨hsize, by rw [hlength, Grid.cells_put, List.length_set], fun i => ⟨fun hi => ?_, fun hi c hc => ?_⟩⟩
      · rw [List.mem_cons, not_or] at hi
        rw [(hall i).1 hi.2, Grid.getElem?_put_of_ne hi.1]
      · rcases List.mem_cons.1 hi with rfl | hi
        · rw [(hall i).1 hk, Grid.getElem?_put_self hcell] at hc
          cases hc
          exact ⟨cell, hcell, hturned⟩
        · obtain ⟨c₀, hc₀, hturned₀⟩ := (hall i).2 hi c hc
          have hik : i ≠ k := fun h => hk (h ▸ hi)
          rw [Grid.getElem?_put_of_ne hik] at hc₀
          exact ⟨c₀, hc₀, hturned₀⟩

/-- After a pass that logs nothing every cell has had its turn. -/
theorem turned_of_enforce {luck luck' : Luck} {u : Unit}
    (h : ((Rule.implication r).enforce details) (g, luck) = .ok u (g', luck'))
    (hquiet : luck'.warnings = luck.warnings) :
    g'.size = g.size ∧ g'.cells.length = g.cells.length ∧ ∀ (i : Nat) cell', g'.cells[i]? = some cell' →
      ∃ cell, g.cells[i]? = some cell ∧ r.Turned details g.size cell cell' := by
  obtain ⟨_, _, hs, h⟩ := Turn.bind_eq_ok.1 h
  obtain ⟨rfl, rfl⟩ := Turn.subject_eq_ok.1 hs
  obtain ⟨hsize, hlength, hall⟩ := enforceFrom_spec List.nodup_range h hquiet
  refine ⟨hsize, hlength, fun i cell' hcell' => (hall i).2 (List.mem_range.2 ?_) cell' hcell'⟩
  rw [← hlength]
  exact (List.getElem?_eq_some_iff.1 hcell').1

/-- After a pass that could break every antecedent it had to, the implication does not fail. -/
theorem verify_ne_of_enforce (hr : r.Orderly details) (hg : ∀ c ∈ g.cells, c.Regular) {luck luck' : Luck}
    {u : Unit} (h : ((Rule.implication r).enforce details) (g, luck) = .ok u (g', luck'))
    (hquiet : luck'.warnings = luck.warnings) : (Rule.implication r).verify details g' ≠ .ok false := by
  intro hfalse
  obtain ⟨c, hc, hholds⟩ := exists_of_allM_eq_ok_false hfalse
  obtain ⟨i, hi, rfl⟩ := List.mem_iff_getElem.1 hc
  obtain ⟨hsize, -, hall⟩ := turned_of_enforce h hquiet
  obtain ⟨c₀, hc₀, hturned⟩ := hall i _ (List.getElem?_eq_getElem hi)
  rw [hsize] at hholds
  exact (hr.settled (hg c₀ (List.mem_of_getElem? hc₀)) hturned).holdsOn_ne hholds

end ShapePuzzle.Implication
