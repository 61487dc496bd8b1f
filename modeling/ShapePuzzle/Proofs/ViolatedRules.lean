import ShapePuzzle.Proofs.KeptPlaces
import ShapePuzzle.Proofs.ViolatedImplications
import ShapePuzzle.Proofs.ViolatedRequirements

/-!
# Rules that were violated

Unless a violation is skipped, which the log tells, the grid is left with a cell on which the rule fails, and so the
rule is not verified. That goes for a grid on which a template is to fail, too.
-/
namespace ShapePuzzle
variable {details : Details} {st : Grid × Luck}

/-- The complaint that a violation was skipped. -/
def Warning.OfViolation (w : Warning) : Prop := w = .implicationKept ∨ w = .requirementKept

namespace Rule
variable {rule : Rule} {u : Unit} {st' : Grid × Luck}

/-- A violation that does not say that it was skipped leaves a cell on which the rule fails. -/
theorem refutedOn_of_violate (hg : st.1.RowMajor) (h : (rule.violate details) st = .ok u st')
    (hkept : ∀ w ∈ st.2.news st'.2, ¬ w.OfViolation) : rule.RefutedOn details st'.1 := by
  have hlogged : ∀ w, st'.2.warnings = st.2.warnings ++ [w] → ¬ w.OfViolation := by
    intro w hw
    exact hkept w (by simp [Luck.news, hw])
  cases rule with
  | implication r =>
    rcases (r.meets_violate details st).ok h with ⟨hviolated, -⟩ | ⟨-, hwarn⟩
    · exact hviolated.refutedOn
    · exact absurd (.inl rfl) (hlogged _ hwarn)
  | requirement r =>
    obtain ⟨g, hattempted, ⟨hviolated, -⟩ | ⟨-, hwarn⟩⟩ := (r.meets_violate details hg).ok h
    · exact hviolated.refutedOn (hattempted.rowMajor hg)
    · exact absurd (.inr rfl) (hlogged _ hwarn)

end Rule

/-- A grid on which a template is to fail is a random grid on which the rules were enforced and one was violated. -/
theorem Template.refutedOn_of_buildGrid {σ : Type} {t : Template} {size : Int} {st st' : σ × Luck} {g : Grid}
    (h : (t.buildGrid size false details : Turn σ Grid) st = .ok g st')
    (hkept : ∀ w ∈ st.2.news st'.2, ¬ w.OfViolation) : ∃ rule ∈ t.rules, rule.RefutedOn details g := by
  obtain ⟨start, st₁, hstart, h⟩ := Turn.bind_eq_ok.1 h
  obtain ⟨⟨u, g'⟩, st₂, haside, h⟩ := Turn.bind_eq_ok.1 h
  obtain ⟨rfl, rfl⟩ := Turn.pure_eq_ok.1 h
  obtain ⟨luck, hrun, rfl⟩ := Turn.aside_eq_ok.1 haside
  obtain ⟨_, st₃, henforce, hrun⟩ := Turn.bind_eq_ok.1 hrun
  obtain ⟨rule, st₄, hpick, hviolate⟩ := Turn.bind_eq_ok.1 hrun
  obtain ⟨hrule, hsame⟩ := pick_spec hpick
  have hrow : st₄.1.RowMajor := by
    rw [hsame]
    exact Rule.rowMajor_of_enforceAll (Grid.random_spec hstart).2.1 henforce
  -- what was logged while the rules were enforced comes before what the violation may log
  have hlength : st.2.warnings.length ≤ st₄.2.warnings.length := by
    obtain ⟨-, ws, hws, -⟩ := Rule.logs_enforceAll details t.rules henforce
    rw [(silent_pick _).warnings_eq hpick, hws, (Grid.silent_random size).warnings_eq hstart, List.length_append]
    omega
  exact ⟨rule, hrule, Rule.refutedOn_of_violate hrow hviolate fun w hw =>
    hkept w (List.drop_subset_drop_left _ hlength hw)⟩

/-- A rule that was violated is not verified, unless the log says that the violation was skipped, and neither is a
template on a grid on which it was to fail. -/
theorem Rule.verify_not_true_of_violate (details : Details) :
    (∀ (rule : Rule) (g g' : Grid) (luck luck' : Luck), g.RowMajor →
      (rule.violate details) (g, luck) = .ok () (g', luck') → (∀ w ∈ luck.news luck', ¬ w.OfViolation) →
      rule.RefutedOn details g' ∧ rule.verify details g' ≠ .ok true) ∧
    ∀ (t : Template) (size : Int) (σ : Type) (st st' : σ × Luck) (g : Grid),
      (t.buildGrid size false details : Turn σ Grid) st = .ok g st' →
      (∀ w ∈ st.2.news st'.2, ¬ w.OfViolation) →
      (∃ rule ∈ t.rules, rule.RefutedOn details g) ∧ t.verify g details ≠ .ok true := by
  constructor
  · intro rule g g' luck luck' hg h hkept
    have hrefuted := Rule.refutedOn_of_violate hg h hkept
    exact ⟨hrefuted, hrefuted.verify_ne⟩
  · intro t size σ st st' g h hkept
    obtain ⟨rule, hrule, hrefuted⟩ := Template.refutedOn_of_buildGrid h hkept
    exact ⟨⟨rule, hrule, hrefuted⟩, hrefuted.verifyAll_ne hrule⟩

/-- Every circle is to have a green cell on its right, which turns pink where that is to fail. -/
def Requirement.circlesNeedGreen : Requirement where
  antecedent := (circlesNeed .color "#7ed957").antecedent
  neighbor := { (circlesNeed .color "#7ed957").neighbor with violation := some (.set .color (.constant (.text "#ff82a9"))) }
  breakAntecedent := (circlesNeed .color "#7ed957").breakAntecedent

/-- A template of nothing but rules. -/
def Template.ofRules (rules : List Rule) : Template where
  id := none
  description := none
  placeholders := []
  fields := []
  statement := { text := "", formal := "", hint := "" }
  rules := rules

/-- A circle is forced beside a cell that turns pink, on a grid without circles and on a random one. -/
theorem Rule.verify_not_true_of_violate_circles :
    (∃ g' luck', ((Rule.requirement .circlesNeedGreen).violate [])
        (Requirement.pairOfRows ("square", "#ff82a9") ("square", "#7ed957"), .start fun _ => 3) = .ok () (g', luck') ∧
      luck'.warnings = [] ∧ (Rule.requirement .circlesNeedGreen).verify [] g' ≠ .ok true) ∧
    ∃ g luck, ((Template.ofRules [.requirement .circlesNeedGreen]).buildGrid 2 false [] : Turn Unit Grid)
        ((), .start fun _ => 3) = .ok g ((), luck) ∧
      luck.warnings = [] ∧ (Template.ofRules [.requirement .circlesNeedGreen]).verify g [] ≠ .ok true := by
  have hnews : ∀ {luck : Luck}, luck.warnings = [] →
      ∀ w ∈ (Luck.start fun _ => 3).news luck, ¬ w.OfViolation := by
    intro luck hluck w hw
    simp [Luck.news, hluck] at hw
  constructor
  · obtain ⟨_, g', luck', hrun, hluck⟩ := Turn.exists_of_returnsQuietly
      ((Rule.requirement .circlesNeedGreen).violate [])
      (Requirement.pairOfRows ("square", "#ff82a9") ("square", "#7ed957"), .start fun _ => 3) rfl
    exact ⟨g', luck', hrun, hluck, ((verify_not_true_of_violate []).1 _ _ g' _ luck'
      (Requirement.rowMajor_pairOfRows _ _) hrun (hnews hluck)).2⟩
  · obtain ⟨g, _, luck, hrun, hluck⟩ := Turn.exists_of_returnsQuietly
      ((Template.ofRules [.requirement .circlesNeedGreen]).buildGrid 2 false [] : Turn Unit Grid)
      ((), .start fun _ => 3) (by decide +kernel)
    exact ⟨g, luck, hrun, hluck, ((verify_not_true_of_violate []).2 _ 2 Unit _ _ g hrun (hnews hluck)).2⟩

end ShapePuzzle
