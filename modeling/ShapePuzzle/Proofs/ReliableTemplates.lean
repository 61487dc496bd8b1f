import ShapePuzzle.Proofs.QuietViolation
import ShapePuzzle.Proofs.RoundTruth

/-!
# Templates whose grids are as ordered

A template is reliable for some details if its rules are tame, orderly and refutable and no later rule takes back
what an earlier one has made hold. Then its statement holds or fails on a grid as ordered, whatever is drawn.
-/
namespace ShapePuzzle
variable {details : Details} {size : Int} {g g' : Grid}

/-- What a quiet turn promises is true of every run of it. -/
theorem Turn.Quiet.of_run {σ α : Type} {x : Turn σ α} {s t : σ} {Q : α → σ → Prop} {a : α} {luck luck' : Luck}
    (h : Turn.Quiet x s Q) (hx : x (s, luck) = .ok a (t, luck')) : luck'.warnings = luck.warnings ∧ Q a t := by
  obtain ⟨b, u, luck₁, hrun, hlog, hQ⟩ := h luck
  rw [hx] at hrun
  cases hrun
  exact ⟨hlog, hQ⟩

namespace Implication
variable {r : Implication} {cell cell' : Cell}

private theorem runActions_agreeOn {actions : List CellAction} (hactions : ∀ a ∈ actions, a.Tame details size)
    (hsure : ∀ a ∈ actions, a.Sure details size) (hcell : cell.Ordinary) {luck luck' : Luck} {u : Unit}
    (h : (r.runActions details size actions) (cell, luck) = .ok u (cell', luck')) :
    cell.AgreeOn (fun p => ∀ a ∈ actions, a.writes p = false) cell' := by
  induction actions generalizing cell luck with
  | nil =>
    obtain ⟨-, h⟩ := Turn.pure_eq_ok.1 h
    cases h
    exact .refl _ _
  | cons a rest ih =>
    obtain ⟨hfirst, hothers⟩ := List.forall_mem_cons.1 hactions
    obtain ⟨status, ⟨cell₁, luck₁⟩, ha, h⟩ := Turn.bind_eq_ok.1 h
    obtain rfl := hsure a List.mem_cons_self hcell ha
    have hkept := ((CellAction.quiet_apply hfirst hcell).of_run ha).2
    have hframe : cell.AgreeOn (fun p => ∀ b ∈ a :: rest, b.writes p = false) cell₁ :=
      (CellAction.apply_frame ha).mono fun p hp => hp a List.mem_cons_self
    refine hframe.trans ((ih hothers ?_ hkept.1 h).mono fun p hp b hb => hp b (List.mem_cons_of_mem a hb))
    intro b hb
    exact hsure b (List.mem_cons_of_mem a hb)

/-- A turn of an implication whose actions never need a break changes only what its actions write. -/
theorem Turned.agreeOn (hr : r.Tame details size) (hsure : ∀ a ∈ r.actions, a.Sure details size) (hcell : cell.Ordinary)
    (h : r.Turned details size cell cell') : cell.AgreeOn (fun p => ∀ a ∈ r.actions, a.writes p = false) cell' := by
  obtain ⟨luck, luck', h, -⟩ := h
  obtain ⟨_, _, hs, h⟩ := Turn.bind_eq_ok.1 h
  obtain ⟨rfl, rfl⟩ := Turn.subject_eq_ok.1 hs
  obtain ⟨b, _, hbrun, h⟩ := Turn.bind_eq_ok.1 h
  obtain ⟨-, rfl⟩ := Turn.ofExcept_eq_ok.1 hbrun
  cases b with
  | false =>
    obtain ⟨-, h⟩ := Turn.pure_eq_ok.1 h
    cases h
    exact .refl _ _
  | true => exact runActions_agreeOn hr.actions hsure hcell h

theorem holdsOn_congr (h : cell.AgreeOn (fun p => Condition.reads? r.antecedent p = true ∨
      ∃ a ∈ r.actions, a.checks p = true) cell') (details : Details) (size : Int) :
    r.holdsOn details size cell = .ok true ↔ r.holdsOn details size cell' = .ok true := by
  have hwhen := Condition.evaluate?_context_congr (h.mono fun p hp => .inl hp) details size
  have hactions : ∀ a ∈ r.actions, a.holds details size cell = a.holds details size cell' := fun a ha =>
    CellAction.holds_congr (h.mono fun p hp => .inr ⟨a, ha, hp⟩) details size
  simp only [holdsOn_eq_ok_true, hwhen]
  refine or_congr_right (and_congr_right fun _ => forall₂_congr fun a ha => ?_)
  rw [hactions a ha]

end Implication

namespace Rule
variable {rule earlier : Rule} {rules done : List Rule}

/-- Enforcing the rule takes nothing back from one that was enforced before. -/
def Spares (details : Details) (size : Int) (rule earlier : Rule) : Prop :=
  ∀ {g g' : Grid} {luck luck' : Luck} {u : Unit}, g.Proper size → earlier.verify details g = .ok true →
    (rule.enforce details) (g, luck) = .ok u (g', luck') → luck'.warnings = luck.warnings →
    earlier.verify details g' = .ok true

/-- An implication spares another that does not look at what its actions write, if it never needs a break. -/
theorem spares_implication {r r₀ : Implication} (hr : r.Tame details size)
    (hsure : ∀ a ∈ r.actions, a.Sure details size)
    (hapart : ∀ p, Condition.reads? r₀.antecedent p = true ∨ (∃ a ∈ r₀.actions, a.checks p = true) →
      ∀ a ∈ r.actions, a.writes p = false) :
    (implication r).Spares details size (implication r₀) := by
  intro g g' luck luck' u hg hholds hrun hquiet
  obtain ⟨hsize, -, hturned⟩ := Implication.turned_of_enforce hrun hquiet
  rw [verify, allM_eq_ok_true] at hholds ⊢
  intro c' hc'
  obtain ⟨k, hk⟩ := List.getElem?_of_mem hc'
  obtain ⟨c, hc, hturn⟩ := hturned k c' hk
  rw [hg.size_eq] at hturn
  have hagree := (hturn.agreeOn hr hsure (hg.ordinary_of_getElem? hc)).mono hapart
  rw [hsize, ← Implication.holdsOn_congr hagree]
  exact hholds c (List.mem_of_getElem? hc)

/-- The rule is enforced and violated as it should, whatever is drawn. -/
structure Reliable (details : Details) (size : Int) (rule : Rule) : Prop where
  tame : rule.Tame details size
  orderly : rule.Orderly details
  refutable : rule.Refutable details size

theorem Reliable.quiet_enforce (hr : rule.Reliable details size) (hg : g.Proper size) :
    Turn.Quiet (rule.enforce details) g fun _ g' => g'.Proper size ∧ rule.verify details g' = .ok true := by
  have hrun := (hr.tame.quiet_enforce hg).and_run (P := fun _ g' => rule.verify details g' ≠ .ok false)
    fun hrun hquiet => hr.orderly.verify_ne hg.rowMajor hg.ordinary hrun hquiet
  refine hrun.mono ?_
  rintro u g' ⟨hg', hne⟩
  obtain ⟨b, hb⟩ := hr.tame.exists_verify hg'
  cases b with
  | true => exact ⟨hg', hb⟩
  | false => exact absurd hb hne

/-- Rules enforced one after the other all hold in the end. -/
private theorem quiet_enforceAll_after (hrules : ∀ rule ∈ rules, rule.Reliable details size)
    (hspares : (done ++ rules).Pairwise fun earlier later => later.Spares details size earlier) (hg : g.Proper size)
    (hdone : ∀ rule ∈ done, rule.verify details g = .ok true) :
    Turn.Quiet (enforceAll details rules) g fun _ g' => g'.Proper size ∧
      ∀ rule ∈ done ++ rules, rule.verify details g' = .ok true := by
  induction rules generalizing g done with
  | nil => exact .pure ⟨hg, by simpa using hdone⟩
  | cons rule rest ih =>
    obtain ⟨hrule, hrest⟩ := List.forall_mem_cons.1 hrules
    have hkeeps : ∀ earlier ∈ done, rule.Spares details size earlier := fun earlier hearlier =>
      (List.pairwise_append.1 hspares).2.2 earlier hearlier rule List.mem_cons_self
    refine .bind ((hrule.quiet_enforce hg).and_run
      (P := fun _ g' => ∀ earlier ∈ done, earlier.verify details g' = .ok true)
      fun hrun hquiet earlier hearlier => hkeeps earlier hearlier hg (hdone earlier hearlier) hrun hquiet) ?_
    rintro u g' ⟨⟨hg', hholds⟩, hearlier⟩
    rw [List.append_cons] at hspares ⊢
    refine ih hrest hspares hg' fun rule' hrule' => ?_
    rcases List.mem_append.1 hrule' with hrule' | hrule'
    · exact hearlier rule' hrule'
    · obtain rfl := List.mem_singleton.1 hrule'
      exact hholds

theorem quiet_enforceAll (hrules : ∀ rule ∈ rules, rule.Reliable details size)
    (hspares : rules.Pairwise fun earlier later => later.Spares details size earlier) (hg : g.Proper size) :
    Turn.Quiet (enforceAll details rules) g fun _ g' => g'.Proper size ∧
      verifyAll details g' rules = .ok true := by
  have hnone : ∀ rule ∈ ([] : List Rule), rule.verify details g = .ok true := by simp
  rw [← List.nil_append rules] at hspares
  exact (quiet_enforceAll_after hrules hspares hg hnone).mono fun _ _ h => ⟨h.1, allM_eq_ok_true.2 h.2⟩

end Rule

namespace Grid
variable {σ : Type} {s : σ}

private theorem quiet_randomCells (size : Int) (ks : List Nat) :
    Turn.Quiet (randomCells size ks : Turn σ (List Cell)) s fun cs s' => s' = s ∧ cs.length = ks.length := by
  induction ks with
  | nil => exact .pure ⟨rfl, rfl⟩
  | cons k ks ih =>
    have hcell : Turn.Quiet (randomCell (.ofIndex size k) : Turn σ Cell) s fun _ s' => s' = s := by
      have hpick : ∀ p : Property, Turn.Quiet (pick p.domain : Turn σ Value) s fun _ s' => s' = s :=
        fun p => quiet_pick p.domain_ne_nil fun _ _ => rfl
      refine .bind (hpick .shape) ?_
      rintro shape s' rfl
      refine .bind (hpick .color) ?_
      rintro color s' rfl
      refine .bind (hpick .number) ?_
      rintro number s' rfl
      exact .pure rfl
    refine .bind hcell ?_
    rintro cell s' rfl
    refine .bind ih ?_
    rintro cells s' ⟨rfl, hlength⟩
    exact .pure ⟨rfl, by simp [hlength]⟩

/-- A random grid is proper. -/
theorem quiet_random (size : Int) : Turn.Quiet (random size : Turn σ Grid) s fun g s' => s' = s ∧ g.Proper size := by
  have hrandom : Turn.Quiet (random size : Turn σ Grid) s fun _ s' => s' = s := by
    refine .bind (quiet_randomCells size _) ?_
    rintro cells s' ⟨rfl, hlength⟩
    have hsquare : (cells.length : Int) = size * size := by
      have hnonneg := Int.natAbs_mul_self (a := size)
      rw [hlength, List.length_range]
      omega
    exact .ofExcept (dif_pos hsquare) rfl
  refine (hrandom.and_run (P := fun g _ => g.size = size ∧ g.RowMajor ∧ g.Ordinary)
    fun hrun _ => random_spec hrun).mono ?_
  rintro g s' ⟨rfl, hsize, hrow, hordinary⟩
  exact ⟨rfl, hsize, hrow, hordinary⟩

end Grid

namespace Template
variable {t : Template} {σ : Type} {s : σ}

/-- Its grids are as ordered: see `Rule.Reliable`. -/
structure Reliable (t : Template) (details : Details) (size : Int) : Prop where
  nonempty : t.rules ≠ []
  rules : ∀ rule ∈ t.rules, rule.Reliable details size
  spares : t.rules.Pairwise fun earlier later => later.Spares details size earlier

theorem Reliable.quiet_shapeGrid (ht : t.Reliable details size) (hg : g.Proper size) (hsize : 0 < size)
    (satisfies : Bool) :
    Turn.Quiet (t.shapeGrid satisfies details) g fun _ g' => t.verify g' details = .ok satisfies := by
  refine .bind (Rule.quiet_enforceAll ht.rules ht.spares hg) ?_
  rintro u g' ⟨hg', hholds⟩
  cases satisfies with
  | true => exact .pure hholds
  | false =>
    refine .bind (Q := fun rule g'' => rule ∈ t.rules ∧ g'' = g') (quiet_pick ht.nonempty fun _ h => ⟨h, rfl⟩) ?_
    rintro rule g'' ⟨hrule, rfl⟩
    have hreliable := ht.rules rule hrule
    refine (hreliable.tame.quiet_violate hreliable.refutable hg' hsize).mono ?_
    rintro u g₁ ⟨hg₁, hfails⟩
    exact allM_eq_ok_false (fun r hr => (ht.rules r hr).tame.exists_verify hg₁) hrule hfails

/-- The statement holds or fails on the grid as ordered. -/
theorem Reliable.quiet_buildGrid (ht : t.Reliable details size) (hsize : 0 < size) (satisfies : Bool) :
    Turn.Quiet (t.buildGrid size satisfies details : Turn σ Grid) s fun g s' => s' = s ∧
      t.verify g details = .ok satisfies := by
  refine .bind (Grid.quiet_random size) ?_
  rintro start s' ⟨rfl, hstart⟩
  refine .bind (.aside (Q := fun p s'' => s'' = s' ∧ t.verify p.2 details = .ok satisfies)
    ((ht.quiet_shapeGrid hstart hsize satisfies).mono fun _ _ h => ⟨rfl, h⟩)) ?_
  rintro ⟨u, g'⟩ s'' ⟨rfl, hverify⟩
  exact .pure ⟨rfl, hverify⟩

end Template
end ShapePuzzle
