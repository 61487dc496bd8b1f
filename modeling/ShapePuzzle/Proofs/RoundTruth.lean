import ShapePuzzle.Proofs.DistractorSearch
import ShapePuzzle.Proofs.ImplicationEnforcement
import ShapePuzzle.Proofs.RequirementEnforcement

/-!
# Whether the statement of a round is true

The statement of a round is not checked on its grid: it rests on one pass of the rule. That pass is enough for
a rule whose actions, neighbors and breaks stay out of each other's way, and it is not for a requirement such as
that every circle has a circle on its right, where breaking a cell spoils the one before it.
-/
namespace ShapePuzzle

namespace Rule

/-- One pass of the rule does not undo what it has done. -/
def Orderly (details : Details) : Rule → Prop
  | implication r => r.Orderly details
  | requirement r => r.Separate ∨ r.Sheltered details

variable {details : Details} {g g' : Grid} {luck luck' : Luck} {u : Unit}

theorem Orderly.verify_ne {rule : Rule} (hr : rule.Orderly details) (hrow : g.RowMajor) (hg : g.Ordinary)
    (h : (rule.enforce details) (g, luck) = .ok u (g', luck')) (hquiet : luck'.warnings = luck.warnings) :
    rule.verify details g' ≠ .ok false := by
  cases rule with
  | implication r => exact Implication.verify_ne_of_enforce hr (fun c hc => (hg c hc).regular) h hquiet
  | requirement r =>
    have hpreserving : r.Preserving details := by
      rcases hr with hr | hr
      · exact hr.preserving details
      · exact hr.preserving
    rw [Requirement.verify_of_enforce_of_preserving hpreserving hrow h hquiet]
    nofun

theorem enforceAll_singleton {rule : Rule} (h : (enforceAll details [rule]) (g, luck) = .ok u (g', luck')) :
    (rule.enforce details) (g, luck) = .ok () (g', luck') := by
  obtain ⟨_, st, hrule, h⟩ := Turn.bind_eq_ok.1 h
  obtain ⟨-, rfl⟩ := Turn.pure_eq_ok.1 h
  exact hrule

end Rule

namespace Round
variable {σ : Type} {bank : List Template} {tier : String} {wanted attempts : Int} {s s' : σ} {luck luck' : Luck}
  {r : Round}

/-- What is logged while a round is built comes from its statement, from its grid and from the search. -/
private theorem news_of_build {st : σ × Luck}
    (h : (build bank tier wanted attempts : Turn σ Round) st = .ok r (s', luck')) :
    ∃ us ws vs st₁ st₂ st₃, st.2.news luck' = us ++ ws ++ vs ∧ r.template ∈ bank ∧
      (r.template.state : Turn σ Statement) st₁ = .ok r.statement st₂ ∧
      (r.template.buildGrid standardSize true r.statement.details : Turn σ Grid) st₂ = .ok r.grid st₃ ∧
      st₃.2.warnings = st₂.2.warnings ++ ws := by
  obtain ⟨k, st₁, st₂, st₃, st₄, found, hk, hpick, hstate, hgrid, hfound, -, hshuffle⟩ := build_runs h
  have hw₁ := (silent_pick _).warnings_eq hpick
  obtain ⟨-, us, hus, -⟩ := r.template.logs_state hstate
  obtain ⟨-, ws, hws, -⟩ := r.template.logs_buildGrid_true _ _ hgrid
  obtain ⟨-, vs, hvs, -⟩ := Search.logs_run _ _ _ _ _ hfound
  have hw₅ := (silent_shuffle _).warnings_eq hshuffle
  have hall : luck'.warnings = st.2.warnings ++ (us ++ ws ++ vs) := by
    calc luck'.warnings = st₄.2.warnings := hw₅
      _ = ((st₁.2.warnings ++ us) ++ ws) ++ vs := by rw [hvs, hws, hus]
      _ = st.2.warnings ++ (us ++ ws ++ vs) := by rw [hw₁]; simp only [List.append_assoc]
  refine ⟨us, ws, vs, st₁, st₂, st₃, ?_, List.mem_of_getElem? hk, hstate, hgrid, hws⟩
  rw [Luck.news, hall, List.drop_left]

/-- A round whose template has one orderly rule shows a statement that does not fail on its grid, unless an
antecedent could not be broken. -/
theorem truth_not_false
    (hbank : ∀ t ∈ bank, ∃ rule, t.rules = [rule] ∧
      ∀ (st st' : σ × Luck) (d : Statement), t.state st = .ok d st' → rule.Orderly d.details)
    (h : (build bank tier wanted attempts : Turn σ Round) (s, luck) = .ok r (s', luck'))
    (hkept : ∀ p, .antecedentKept p ∉ luck.news luck') :
    r.template.verify r.grid r.statement.details ≠ .ok false := by
  obtain ⟨us, ws, vs, st₁, st₂, st₃, hnews, hmem, hstate, hgrid, hws⟩ := news_of_build h
  obtain ⟨rule, hrules, horderly⟩ := hbank r.template hmem
  have hquiet : st₃.2.warnings = st₂.2.warnings := by
    refine (r.template.logs_buildGrid_true _ _).warnings_eq hgrid ?_
    rintro w ⟨p, rfl⟩ hw
    rw [Luck.news, hws, List.drop_left] at hw
    refine hkept p ?_
    change Warning.antecedentKept p ∈ (s, luck).2.news luck'
    rw [hnews]
    simp [hw]
  obtain ⟨start, luck₁, -, hrow, hordinary, hstart, hrun⟩ := Template.buildGrid_true_spec hgrid
  rw [hrules] at hrun
  have hne := (horderly _ _ _ hstate).verify_ne hrow hordinary (Rule.enforceAll_singleton hrun)
    (hquiet.trans hstart.symm)
  intro hfalse
  rw [Template.verify, hrules] at hfalse
  obtain ⟨rule', hrule', hfails⟩ := exists_of_allM_eq_ok_false hfalse
  obtain rfl := List.mem_singleton.1 hrule'
  exact hne hfails

/-- The statement that every circle has a cell with a given value of a property on its right. -/
def circlesTemplate (p : Property) (v : String) : Template where
  id := none
  description := none
  placeholders := []
  fields := []
  statement := { text := "Every circle has its match directly to its right.", formal := "", hint := "" }
  rules := [.requirement (.circlesNeed p v)]

private theorem exists_build {t : Template} {f : Except Fault Bool → Bool}
    (h : (match (build [t] "easy" 0 60 : Turn Unit Round) ((), .start fun _ => 0) with
      | .ok r st => st.2.warnings.isEmpty && f (r.template.verify r.grid r.statement.details)
      | .error _ _ => false) = true) :
    ∃ (r : Round) (luck : Luck), (build [t] "easy" 0 60 : Turn Unit Round) ((), .start fun _ => 0) = .ok r ((), luck) ∧
      luck.warnings = [] ∧ f (r.template.verify r.grid r.statement.details) = true := by
  cases hbuild : (build [t] "easy" 0 60 : Turn Unit Round) ((), .start fun _ => 0) with
  | ok r st =>
    rw [hbuild, Bool.and_eq_true, List.isEmpty_iff] at h
    exact ⟨r, st.2, rfl, h⟩
  | error e st =>
    rw [hbuild] at h
    cases h

theorem truth_not_false_circles :
    ∃ (r : Round) (luck : Luck),
      (build [circlesTemplate .color "#7ed957"] "easy" 0 60 : Turn Unit Round) ((), .start fun _ => 0) =
        .ok r ((), luck) ∧
      luck.warnings = [] ∧ r.template.verify r.grid r.statement.details ≠ .ok false := by
  obtain ⟨r, luck, hbuild, hwarnings, -⟩ := exists_build (t := circlesTemplate .color "#7ed957")
    (f := fun _ => true) (by decide +kernel)
  refine ⟨r, luck, hbuild, hwarnings, truth_not_false ?_ hbuild (by simp [Luck.news, hwarnings])⟩
  intro t ht
  obtain rfl := List.mem_singleton.1 ht
  exact ⟨_, rfl, fun _ _ _ _ => .inl (Requirement.separate_circlesNeed_color "#7ed957")⟩

/-- Every circle is to have a circle on its right: the cells of the last column are broken after those before
them have been served, and nothing is logged. -/
theorem truth_fails_circles :
    ∃ (r : Round) (luck : Luck),
      (build [circlesTemplate .shape "circle"] "easy" 0 60 : Turn Unit Round) ((), .start fun _ => 0) =
        .ok r ((), luck) ∧
      luck.warnings = [] ∧ r.template.verify r.grid r.statement.details = .ok false := by
  obtain ⟨r, luck, hbuild, hwarnings, hverify⟩ := exists_build (t := circlesTemplate .shape "circle")
    (f := fun b => match b with | .ok b => !b | .error _ => false) (by decide +kernel)
  refine ⟨r, luck, hbuild, hwarnings, ?_⟩
  cases hv : r.template.verify r.grid r.statement.details with
  | ok b =>
    rw [hv] at hverify
    simp_all
  | error e =>
    rw [hv] at hverify
    cases hverify

end Round
end ShapePuzzle
