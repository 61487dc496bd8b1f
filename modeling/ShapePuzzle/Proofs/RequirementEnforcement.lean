import ShapePuzzle.Proofs.RequirementSteps

/-!
# Enforcing a requirement

A pass makes the requirement hold everywhere if no turn takes it back from another cell. The neighbor map is
injective, so the cells at risk are the neighbor that is written and the cell whose neighbor is broken. They
keep what holds on them if the properties written are none that matter there, or if meeting the conditions
exempts the neighbor and is always possible.
-/
namespace ShapePuzzle.Requirement
variable {r : Requirement} {details : Details} {g g' : Grid} {i j k : Nat} {cell cell' neighbor : Cell}

/-- No turn takes back what holds on another cell. -/
def Preserving (r : Requirement) (details : Details) : Prop :=
  ∀ ⦃g g' : Grid⦄ ⦃k : Nat⦄, g.RowMajor → Step r details k g g' →
    ∀ ⦃i⦄, i ≠ k → r.SatisfiedAt details g i → r.SatisfiedAt details g' i

private theorem step_of_enforceAt (hg : g.RowMajor) (hk : k < g.cells.length) {luck luck' : Luck} {u : Unit}
    (h : ((Rule.requirement r).enforceAt details k) (g, luck) = .ok u (g', luck'))
    (hquiet : luck'.warnings = luck.warnings) : Step r details k g g' := by
  obtain ⟨_, _, hs, h⟩ := Turn.bind_eq_ok.1 h
  obtain ⟨rfl, rfl⟩ := Turn.subject_eq_ok.1 hs
  have hcell : g.cells[k]? = some g.cells[k] := List.getElem?_eq_getElem hk
  simp only [hcell] at h
  exact step_of_enforceCell hg hcell h hquiet

/-- A pass makes the requirement hold on the cells it comes to and keeps it on the others. -/
private theorem satisfiedAt_of_enforceFrom (hr : r.Preserving details) {ks : List Nat} (hg : g.RowMajor)
    (hks : ∀ k ∈ ks, k < g.cells.length) {luck luck' : Luck} {u : Unit}
    (h : ((Rule.requirement r).enforceFrom details ks) (g, luck) = .ok u (g', luck'))
    (hquiet : luck'.warnings = luck.warnings) :
    g'.RowMajor ∧ g'.cells.length = g.cells.length ∧
      ∀ i, i ∈ ks ∨ r.SatisfiedAt details g i → r.SatisfiedAt details g' i := by
  induction ks generalizing g luck with
  | nil =>
    obtain ⟨-, h⟩ := Turn.pure_eq_ok.1 h
    cases h
    exact ⟨hg, rfl, fun i hi => hi.resolve_left List.not_mem_nil⟩
  | cons k ks ih =>
    obtain ⟨_, ⟨g₁, luck₁⟩, hfirst, hrest⟩ := Turn.bind_eq_ok.1 h
    obtain ⟨hq₁, hq₂⟩ := (Rule.logs_enforceAt details _ k).quiet_split (Rule.logs_enforceFrom details _ ks) hfirst
      hrest rfl hquiet
    have hstep := step_of_enforceAt hg (hks k List.mem_cons_self) hfirst hq₁
    have hks₁ : ∀ j ∈ ks, j < g₁.cells.length := by
      intro j hj
      rw [hstep.cells_length]
      exact hks j (List.mem_cons_of_mem k hj)
    obtain ⟨hg', hlength, hall⟩ := ih (hstep.rowMajor hg) hks₁ hrest hq₂
    refine ⟨hg', hlength.trans hstep.cells_length, fun i hi => hall i ?_⟩
    by_cases hik : i = k
    · subst hik
      exact .inr (hstep.satisfiedAt_self hg)
    · rcases hi with hi | hi
      · exact .inl ((List.mem_cons.1 hi).resolve_left hik)
      · exact .inr (hr hg hstep hik hi)

theorem verify_of_enforce_of_preserving (hr : r.Preserving details) (hg : g.RowMajor) {luck luck' : Luck} {u : Unit}
    (h : ((Rule.requirement r).enforce details) (g, luck) = .ok u (g', luck'))
    (hquiet : luck'.warnings = luck.warnings) : (Rule.requirement r).verify details g' = .ok true := by
  obtain ⟨_, _, hs, h⟩ := Turn.bind_eq_ok.1 h
  obtain ⟨rfl, rfl⟩ := Turn.subject_eq_ok.1 hs
  obtain ⟨-, hlength, hall⟩ := satisfiedAt_of_enforceFrom hr hg (fun k hk => List.mem_range.1 hk) h hquiet
  rw [Rule.verify, allM_eq_ok_true]
  intro c hc
  obtain ⟨i, hi, hci⟩ := List.mem_iff_getElem.1 hc
  exact hall i (.inl (List.mem_range.2 (by omega))) c (by rw [List.getElem?_eq_getElem hi, hci])

/-- What a satisfied neighbor and a broken antecedent change is nothing that the rule looks at there. -/
structure Separate (r : Requirement) : Prop where
  straight : r.Straight
  satisfies : ∀ p, r.satisfyWrites p → Condition.reads? r.antecedent p = false ∧
    ∀ c ∈ r.neighbor.conditions, c.reads p = false
  breaks : ∀ p, breakWrites r.antecedent r.breakAntecedent p →
    ∀ c ∈ r.neighbor.conditions, c.readsNeighbor p = false

/-- Whether a requirement is separate shows in what its parts read and write. -/
theorem separate_of_disjoint {A : Condition} {s : NeighborSpec} {b : CellAction}
    (hstraight : (Requirement.mk (some A) s (some b)).Straight)
    (hsatisfies : ∀ p, (s.satisfy.any (·.writes p) && (A.reads p || s.conditions.any (·.reads p))) = false)
    (hbreaks : ∀ p, ((A.reads p || b.writes p) && s.conditions.any (·.readsNeighbor p)) = false) :
    (Requirement.mk (some A) s (some b)).Separate where
  straight := hstraight
  satisfies := by
    rintro p ⟨a, ha, hw⟩
    have hany : s.satisfy.any (·.writes p) = true := List.any_eq_true.2 ⟨a, ha, hw⟩
    have hfree := hsatisfies p
    rw [hany, Bool.true_and, Bool.or_eq_false_iff, List.any_eq_false] at hfree
    exact ⟨hfree.1, fun c hc => Bool.eq_false_iff.2 (hfree.2 c hc)⟩
  breaks := by
    intro p hp c hc
    have hwrites : (A.reads p || b.writes p) = true := by
      rcases hp with hread | ⟨a, ha, hw⟩
      · exact Bool.or_eq_true_iff.2 (.inl hread)
      · cases ha
        exact Bool.or_eq_true_iff.2 (.inr hw)
    have hfree := hbreaks p
    rw [hwrites, Bool.true_and, List.any_eq_false] at hfree
    exact Bool.eq_false_iff.2 (hfree c hc)

/-- A neighbor that meets the conditions is exempt, and the actions never fail to make it so. -/
structure Sheltered (r : Requirement) (details : Details) : Prop where
  straight : r.Straight
  exempt : ∀ {size cell neighbor}, r.conditionsHold details size cell neighbor = .ok true →
    Condition.evaluate? (neighbor.context details size) r.antecedent = .ok false
  obliging : ∀ {size cell neighbor neighbor' done luck luck'},
    (satisfyNeighbor cell details size r.neighbor.satisfy) (neighbor, luck) = .ok done (neighbor', luck') →
    done = true ∧ r.conditionsHold details size cell neighbor' = .ok true

/-- Another cell may change if it still meets the conditions of the cell whose neighbor it is. -/
private theorem satisfiedAt_put_of_ne (hij : i ≠ j)
    (hneighbor : ∀ {cell neighbor}, g.cells[i]? = some cell → g.cells[j]? = some neighbor →
      r.neighborIndex? details g cell = .ok (some j) → r.conditionsHold details g.size cell neighbor = .ok true →
      r.conditionsHold details g.size cell cell' = .ok true)
    (h : r.SatisfiedAt details g i) : r.SatisfiedAt details (g.put j cell') i := by
  intro c hc
  rw [Grid.getElem?_put_of_ne hij] at hc
  rcases holdsOn_eq_ok_true.1 (h c hc) with hb | ⟨hb, n, m, hn, hconditions⟩
  · exact holdsOn_of_antecedent_false hb
  · obtain ⟨hm, hcell⟩ := neighbor?_eq_ok_some.1 hn
    by_cases hmj : m = j
    · subst hmj
      have hn' : r.neighbor? details (g.put m cell') c = .ok (some (cell', m)) :=
        neighbor?_eq_ok_some.2 ⟨hm, Grid.getElem?_put_self hcell⟩
      exact holdsOn_eq_ok_true.2 (.inr ⟨hb, cell', m, hn', hneighbor hc hcell hm hconditions⟩)
    · have hn' : r.neighbor? details (g.put j cell') c = .ok (some (n, m)) := by
        refine neighbor?_eq_ok_some.2 ⟨hm, ?_⟩
        rw [Grid.getElem?_put_of_ne hmj]
        exact hcell
      exact holdsOn_eq_ok_true.2 (.inr ⟨hb, n, m, hn', hconditions⟩)

/-- The neighbor of one cell may change in any way as far as the others are concerned. -/
private theorem satisfiedAt_put_neighbor (hr : r.Straight) (hg : g.RowMajor) (hcell : g.cells[k]? = some cell)
    (hj : r.neighborIndex? details g cell = .ok (some j)) (hik : i ≠ k) (hij : i ≠ j)
    (h : r.SatisfiedAt details g i) : r.SatisfiedAt details (g.put j cell') i := by
  refine satisfiedAt_put_of_ne hij (fun hc _ hcj _ => ?_) h
  exact absurd (neighbor_injective hr hg hc hcell hcj hj) hik

/-- A cell may change what neither the antecedent nor the conditions look at. -/
private theorem satisfiedAt_put_self (hr : r.Separate) (hg : g.RowMajor) (hcell : g.cells[j]? = some cell)
    (hframe : cell.AgreeOn (fun p => ¬ r.satisfyWrites p) cell') (h : r.SatisfiedAt details g j) :
    r.SatisfiedAt details (g.put j cell') j := by
  intro c hc
  rw [Grid.getElem?_put_self hcell] at hc
  cases hc
  have hwhen : Condition.evaluate? (cell.context details g.size) r.antecedent =
      Condition.evaluate? (cell'.context details g.size) r.antecedent := by
    refine Condition.evaluate?_context_congr (hframe.mono fun p hp hw => ?_) details g.size
    rw [(hr.satisfies p hw).1] at hp
    cases hp
  have hcond : ∀ c ∈ r.neighbor.conditions, cell.AgreeOn (c.reads ·) cell' := by
    intro c hc
    refine hframe.mono fun p hp hw => ?_
    rw [(hr.satisfies p hw).2 c hc] at hp
    cases hp
  rcases holdsOn_eq_ok_true.1 (h cell hcell) with hb | ⟨hb, n, m, hn, hconditions⟩
  · exact holdsOn_of_antecedent_false (hwhen ▸ hb)
  · obtain ⟨hm, hmcell⟩ := neighbor?_eq_ok_some.1 hn
    have hindex : r.neighborIndex? details (g.put j cell') cell' = r.neighborIndex? details g cell :=
      neighborIndex?_congr hr.straight rfl hframe.1.symm
    have hn' : r.neighbor? details (g.put j cell') cell' = .ok (some (n, m)) := by
      refine neighbor?_eq_ok_some.2 ⟨hindex.trans hm, ?_⟩
      rw [Grid.getElem?_put_of_ne (neighbor_ne hg hcell hm)]
      exact hmcell
    have hconditions' := (conditionsHold_congr hcond fun _ _ _ _ => rfl).1 hconditions
    exact holdsOn_eq_ok_true.2 (.inr ⟨hwhen ▸ hb, n, m, hn', hconditions'⟩)

/-- A broken cell still meets the conditions of the cell whose neighbor it is. -/
private theorem satisfiedAt_put_broken (hr : r.Separate) (hcell : g.cells[k]? = some cell)
    (hframe : cell.AgreeOn (fun p => ¬ breakWrites r.antecedent r.breakAntecedent p) cell') (hik : i ≠ k)
    (h : r.SatisfiedAt details g i) : r.SatisfiedAt details (g.put k cell') i := by
  refine satisfiedAt_put_of_ne hik (fun {c n} _ hn _ hconditions => ?_) h
  rw [hcell] at hn
  cases hn
  refine (conditionsHold_congr (fun c _ => .refl _ _) fun c hc p hp => ?_).1 hconditions
  refine hframe.2 p fun hw => ?_
  rw [hr.breaks p hw c hc] at hp
  cases hp

theorem Separate.preserving (hr : r.Separate) (details : Details) : r.Preserving details := by
  intro g g' k hg hstep i hik h
  have hneighbor : ∀ {cell neighbor neighbor' : Cell} {j : Nat}, g.cells[k]? = some cell →
      r.neighbor? details g cell = .ok (some (neighbor, j)) →
      neighbor.AgreeOn (fun p => ¬ r.satisfyWrites p) neighbor' →
      r.SatisfiedAt details (g.put j neighbor') i := by
    intro cell neighbor neighbor' j hcell hx hframe
    obtain ⟨hj, hn⟩ := neighbor?_eq_ok_some.1 hx
    by_cases hij : i = j
    · subst hij
      exact satisfiedAt_put_self hr hg hn hframe h
    · exact satisfiedAt_put_neighbor hr.straight hg hcell hj hik hij h
  cases hstep with
  | idle => exact h
  | satisfied hcell hb hx hframe => exact hneighbor hcell hx hframe
  | alone hcell hb hx hframe => exact satisfiedAt_put_broken hr hcell hframe hik h
  | failed hcell hb hx hrun hdone hframe =>
    have hframe₁ := (satisfyNeighbor_frame hrun).mono fun p (hp : ¬ r.satisfyWrites p) a ha =>
      Bool.eq_false_iff.2 fun hw => hp ⟨a, ha, hw⟩
    refine satisfiedAt_put_broken hr ?_ hframe hik (hneighbor hcell hx hframe₁)
    rw [Grid.getElem?_put_of_ne (neighbor_ne hg hcell (neighbor?_eq_ok_some.1 hx).1).symm]
    exact hcell

theorem Sheltered.preserving (hr : r.Sheltered details) : r.Preserving details := by
  intro g g' k hg hstep i hik h
  cases hstep with
  | idle => exact h
  | @satisfied cell neighbor neighbor' j hcell hb hx hframe hconditions =>
    obtain ⟨hj, hn⟩ := neighbor?_eq_ok_some.1 hx
    by_cases hij : i = j
    · subst hij
      intro c hc
      rw [Grid.getElem?_put_self hn] at hc
      cases hc
      exact holdsOn_of_antecedent_false (hr.exempt hconditions)
    · exact satisfiedAt_put_neighbor hr.straight hg hcell hj hik hij h
  | alone hcell hb hx hframe =>
    refine satisfiedAt_put_of_ne hik (fun _ hn _ hconditions => ?_) h
    rw [hcell] at hn
    cases hn
    -- a cell that meets the conditions of another is exempt and has no need to be broken
    rw [hr.exempt hconditions] at hb
    cases hb
  | failed hcell hb hx hrun hdone hframe =>
    obtain ⟨rfl, hconditions⟩ := hr.obliging hrun
    rw [hdone rfl] at hconditions
    cases hconditions

/-- After a pass that could break every antecedent it had to, the requirement holds. -/
theorem verify_of_enforce (hr : r.Separate) (hg : g.RowMajor) {luck luck' : Luck}
    (hrun : ((Rule.requirement r).enforce details) (g, luck) = .ok () (g', luck'))
    (hkept : ∀ p, .antecedentKept p ∉ luck.news luck') : (Rule.requirement r).verify details g' = .ok true :=
  verify_of_enforce_of_preserving (hr.preserving details) hg hrun
    ((Rule.logs_enforce details _).warnings_eq hrun (by rintro w ⟨p, rfl⟩; exact hkept p))

/-- Every circle has a cell with a given value of a property on its right, or it becomes a square. -/
def circlesNeed (p : Property) (v : String) : Requirement where
  antecedent := some (.compare .equals (.cellProperty .shape) (.constant (.text "circle")))
  neighbor := {
    direction := .constant (.text "right")
    conditions := [.compare .equals (.neighborProperty p) (.constant (.text v))]
    satisfy := [.set p (.constant (.text v))]
    violation := none }
  breakAntecedent := some (.set .shape (.constant (.text "square")))

theorem separate_circlesNeed_color (v : String) : (circlesNeed .color v).Separate :=
  separate_of_disjoint (by simp [Straight]) (fun p => by cases p <;> rfl) (fun p => by cases p <;> rfl)

def pairOfRows (left right : String × String) : Grid :=
  ⟨2, [⟨.text left.1, .text left.2, .int 1, ⟨0, 0⟩⟩, ⟨.text right.1, .text right.2, .int 1, ⟨0, 1⟩⟩,
    ⟨.text left.1, .text left.2, .int 1, ⟨1, 0⟩⟩, ⟨.text right.1, .text right.2, .int 1, ⟨1, 1⟩⟩], rfl⟩

theorem rowMajor_pairOfRows (left right : String × String) : (pairOfRows left right).RowMajor := by
  intro k c hc
  obtain ⟨hk, rfl⟩ := List.getElem?_eq_some_iff.1 hc
  match k, hk with
  | 0, _ | 1, _ | 2, _ | 3, _ => rfl

theorem verify_of_enforce_circles :
    ((Rule.requirement (circlesNeed .color "#7ed957")).enforce [])
        (pairOfRows ("circle", "#ff82a9") ("circle", "#ff82a9"), .start fun _ => 0) =
      .ok () (pairOfRows ("circle", "#ff82a9") ("square", "#7ed957"), .start fun _ => 0) ∧
    (Rule.requirement (circlesNeed .color "#7ed957")).verify []
        (pairOfRows ("circle", "#ff82a9") ("square", "#7ed957")) = .ok true := by
  have hrun : ((Rule.requirement (circlesNeed .color "#7ed957")).enforce [])
        (pairOfRows ("circle", "#ff82a9") ("circle", "#ff82a9"), .start fun _ => 0) =
      .ok () (pairOfRows ("circle", "#ff82a9") ("square", "#7ed957"), .start fun _ => 0) := rfl
  exact ⟨hrun, verify_of_enforce (separate_circlesNeed_color "#7ed957") (rowMajor_pairOfRows _ _) hrun
    (by simp [Luck.news, Luck.start])⟩

end ShapePuzzle.Requirement
