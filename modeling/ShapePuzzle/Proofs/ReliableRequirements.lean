import ShapePuzzle.Proofs.ReliableImplications

/-!
# Kinds of reliable requirements

A requirement is reliable if its neighbor can always be worked on and spoilt, its antecedent forced and broken.
The neighbors are asked for a detail or for a number on one side of a threshold.
-/
namespace ShapePuzzle
variable {details : Details} {size : Int} {A : Condition} {p : Property} {k : String} {w : Value}
open Shipped

namespace NeighborSpec

/-- The neighbor can always be worked on, and the violation declared spoils some condition. -/
structure Sound (details : Details) (size : Int) (s : NeighborSpec) : Prop where
  direction : ∃ d : Direction, s.direction = .constant (.text d.name)
  conditions : ∀ c ∈ s.conditions, ∀ cell neighbor : Cell, cell.Ordinary → neighbor.Ordinary →
    ∃ b, c.evaluate (cell.contextWith neighbor details size) = .ok b
  actions : ∀ a ∈ s.satisfy, a.Tame details size
  violation : ∃ spoil, s.violation = some spoil ∧ spoil.Tame details size ∧
    ∀ {cell neighbor neighbor' : Cell} {luck luck' : Luck} {status : Status}, cell.Ordinary → neighbor.Ordinary →
      (spoil.apply cell details size) (neighbor, luck) = .ok status (neighbor', luck') →
      ∃ c ∈ s.conditions, c.evaluate (cell.contextWith neighbor' details size) = .ok false

end NeighborSpec

namespace Requirement

theorem reliable {s : NeighborSpec} {b : CellAction} (hs : s.Sound details size) (hA : A.Tame details size)
    (htakes : ∀ cell : Cell, cell.Ordinary → A.Takes details size cell)
    (hbreak : Breakable details size (some A) (some b))
    (horderly : (Requirement.mk (some A) s (some b)).Separate ∨
      (Requirement.mk (some A) s (some b)).Sheltered details) :
    (Rule.requirement ⟨some A, s, some b⟩).Reliable details size where
  tame := {
    antecedent := fun c hc => by cases hc; exact hA
    direction := hs.direction
    conditions := fun cell neighbor hcell hneighbor =>
      exists_allM fun c hc => hs.conditions c hc cell neighbor hcell hneighbor
    actions := hs.actions
    relief := hbreak }
  orderly := horderly
  refutable := by
    obtain ⟨spoil, hspoil, htame, hspoils⟩ := hs.violation
    refine ⟨fun cell hcell c hc => ?_, spoil, hspoil, htame, ?_⟩
    · cases hc
      exact htakes cell hcell
    · intro cell neighbor neighbor' luck luck' status hcell hneighbor hrun
      obtain ⟨c, hc, hfalse⟩ := hspoils hcell hneighbor hrun
      have hkept := ((NeighborAction.quiet_apply htame hcell hneighbor).of_run hrun).2
      exact allM_eq_ok_false (fun d hd => hs.conditions d hd cell neighbor' hcell hkept.1) hc hfalse

/-- A requirement on the cells that are as a detail says. -/
theorem reliable_isDetail {s : NeighborSpec} (hk : details.lookup k = some w) (hw : w ∈ p.domain)
    (hs : s.Sound details size)
    (hseparate : (Requirement.mk (some (isDetail p k)) s (some (.setDistinct p k))).Separate) :
    (Rule.requirement ⟨some (isDetail p k), s, some (.setDistinct p k)⟩).Reliable details size := by
  have hhinges := Condition.hingesOn_isDetail size hk hw
  exact reliable hs hhinges.tame (fun _ => hhinges.takes) (breakable_isDetail hk hw) (.inl hseparate)

end Requirement

section Neighbors
variable {cell neighbor neighbor' : Cell} {luck luck' : Luck} {status : Status}

theorem evaluate_neighborIs (hk : details.lookup k = some w) :
    (neighborIs p k).evaluate (cell.contextWith neighbor details size) = .ok ((neighbor.get p).strictlyEquals w) :=
  Condition.evaluate_equals rfl (Condition.resolve_detail hk)

/-- The neighbor is asked to be as a detail says. -/
theorem sound_set (size : Int) (d : Direction) (hk : details.lookup k = some w) (hw : w ∈ p.domain) :
    NeighborSpec.Sound details size
      ⟨.constant (.text d.name), [neighborIs p k], [.set p (detail k)], some (.setDistinct p k)⟩ where
  direction := ⟨d, rfl⟩
  conditions := List.forall_mem_singleton.2 fun _ _ _ _ => ⟨_, evaluate_neighborIs hk⟩
  actions := List.forall_mem_singleton.2 fun _ _ _ _ => ⟨w, hw, Condition.resolve_detail hk⟩
  violation := by
    refine ⟨_, rfl, ⟨w, hk⟩, fun {cell neighbor neighbor' luck luck' status} _ hneighbor hrun => ?_⟩
    refine ⟨_, List.mem_singleton_self _, ?_⟩
    -- the neighbor is worked on as the cell itself would be
    have hcell : ((CellAction.setDistinct p k).apply details size) (neighbor, luck) =
      .ok status (neighbor', luck') := hrun
    have hholds := CellAction.holds_of_apply (a := .setDistinct p k) trivial hneighbor.regular hcell
    rw [CellAction.sure_setDistinct p k hneighbor hcell, CellAction.holds_setDistinct hk] at hholds
    rw [evaluate_neighborIs hk]
    simpa using hholds

/-- The neighbor is asked for a number that compares as drawn, after other things. -/
theorem sound_ensureNumber (size : Int) (d : Direction) {word : String} {t : Int}
    (hword : details.lookup "comparison" = some (.text word)) (hmem : word ∈ comparisonWords)
    (ht : details.lookup "threshold" = some (.int t)) (hlow : 2 ≤ t) (hhigh : t ≤ 9) {cs : List Condition}
    {as : List NeighborAction} (has : ∀ a ∈ as, a.Tame details size)
    (hcs : ∀ c ∈ cs, ∀ cell neighbor : Cell, cell.Ordinary → neighbor.Ordinary →
      ∃ b, c.evaluate (cell.contextWith neighbor details size) = .ok b) :
    NeighborSpec.Sound details size
      ⟨.constant (.text d.name), cs ++ [comparesWith (theirs .number)],
        as ++ [.ensureNumber (.ref (detail "comparison")) "threshold"],
        some (.breakNumber (.ref (detail "comparison")) "threshold")⟩ := by
  obtain ⟨op, hop, htest⟩ := Condition.exists_comparison hmem hlow hhigh
  have hvalue : ∀ {cell neighbor : Cell} {m : Int}, neighbor.number = .int m →
      (comparesWith (theirs .number)).evaluate (cell.contextWith neighbor details size) =
        op.test (.int m) (.int t) :=
    fun hm => Condition.evaluate_comparesWith (congrArg Except.ok hm) hword hmem hop ht
  have hresolve : ∀ cell neighbor : Cell,
      (ComparisonSpec.ref (detail "comparison")).resolve (cell.contextWith neighbor details size) = .ok op := by
    intro cell neighbor
    have hdetail : (detail "comparison").resolve (cell.contextWith neighbor details size) = .ok (.text word) :=
      Condition.resolve_detail hword
    simp only [ComparisonSpec.resolve, hdetail]
    exact hop
  refine ⟨⟨d, rfl⟩, ?_, ?_, _, rfl, ⟨⟨t, ht⟩, fun cell neighbor => ⟨op, hresolve cell neighbor⟩⟩, ?_⟩
  · intro c hc cell neighbor hcell hneighbor
    rcases List.mem_append.1 hc with hc | hc
    · exact hcs c hc cell neighbor hcell hneighbor
    · obtain rfl := List.mem_singleton.1 hc
      obtain ⟨m, -, hm⟩ := Property.mem_domain_number.1 (hneighbor .number)
      obtain ⟨b, hb⟩ := op.exists_test_int m t
      exact ⟨b, (hvalue hm).trans hb⟩
  · intro a ha
    rcases List.mem_append.1 ha with ha | ha
    · exact has a ha
    · obtain rfl := List.mem_singleton.1 ha
      exact ⟨⟨t, ht⟩, fun cell neighbor => ⟨op, hresolve cell neighbor⟩⟩
  · intro cell neighbor neighbor' luck luck' status hcell hneighbor hrun
    have hspoilt := ((NeighborAction.quiet_setComparing (hresolve cell neighbor) ht hneighbor).of_run hrun).2.2
    obtain ⟨-, -, m, hm, hfalse⟩ := hspoilt (htest false)
    exact ⟨_, List.mem_append_right _ (List.mem_singleton_self _), (hvalue hm).trans hfalse⟩

end Neighbors

theorem eq_of_strictlyEquals_text {v : Value} {s : String} (h : v.strictlyEquals (.text s) = true) :
    v = .text s := by
  cases v with
  | text t => rw [Value.text_strictlyEquals.1 h]
  | _ => simp [Value.strictlyEquals] at h

/-- A shape whose neighbor has to be another shape shelters the neighbor. -/
theorem sheltered_shape (d : Direction) {b : CellAction} {cs : List Condition} {k₂ s s₂ : String} (hne : s ≠ s₂)
    (hk : details.lookup k = some (.text s)) (hk₂ : details.lookup k₂ = some (.text s₂)) :
    (Requirement.mk (some (.all (isDetail .shape k :: cs)))
      ⟨.constant (.text d.name), [neighborIs .shape k₂], [.set .shape (detail k₂)], some (.setDistinct .shape k₂)⟩
      (some b)).Sheltered details where
  straight := by simp [Requirement.Straight]
  exempt := by
    intro size cell neighbor hholds
    have htrue := allM_eq_ok_true.1 hholds _ (List.mem_singleton_self _)
    rw [evaluate_neighborIs hk₂, Except.ok.injEq] at htrue
    have hshape : neighbor.shape = .text s₂ := eq_of_strictlyEquals_text htrue
    have hfalse : (isDetail .shape k).evaluate (neighbor.context details size) = .ok false := by
      rw [Condition.evaluate_isDetail hk, Cell.get, hshape, Except.ok.injEq, Bool.eq_false_iff, Ne,
        Value.text_strictlyEquals]
      exact hne.symm
    exact Condition.evaluateAll_cons hfalse
  obliging := by
    intro size cell neighbor neighbor' done luck luck' hrun
    obtain ⟨status, _, hset, hrun⟩ := Turn.bind_eq_ok.1 hrun
    obtain ⟨others, _, hothers, hrun⟩ := Turn.bind_eq_ok.1 hrun
    obtain ⟨rfl, hst⟩ := Turn.pure_eq_ok.1 hrun
    obtain ⟨rfl, hst'⟩ := Turn.pure_eq_ok.1 hothers
    -- the neighbor is worked on as the cell itself would be
    have hcell : ((CellAction.set .shape (detail k₂)).apply details size) (neighbor, luck) = .ok status _ := hset
    obtain ⟨w, hw, rfl, hst₁⟩ := CellAction.apply_set_eq_ok.1 hcell
    cases (Condition.resolve_detail hk₂).symm.trans hw
    cases hst₁.trans (hst'.trans hst)
    refine ⟨rfl, allM_eq_ok_true.2 (List.forall_mem_singleton.2 ?_)⟩
    rw [evaluate_neighborIs hk₂, Cell.get_set_self, Value.text_strictlyEquals.2 rfl]

end ShapePuzzle
